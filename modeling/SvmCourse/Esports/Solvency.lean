import Mathlib.Algebra.Order.BigOperators.Group.List
import SvmCourse.Esports.System

/-!
# No Payout Beyond the Deposits

What prize credits add to wallets for a match or tournament never exceeds what
was deposited in its escrow, however calls follow one another and whichever
accesses the store refuses.

The argument is about three numbers of one escrow: what has been credited,
what the escrow row says was released, and the deposit rows. Credits come
after the release that covers them, so they stay below the released total, and
a release takes from a balance that deposits brought in. A failed release that
leaves the new balances under the old status is no exception, since the
balances it leaves are already reduced.

The bound needs terms a payout can honour: a platform fee between 0 and 100
percent and prizes that are not negative. `Solvent` therefore asks it only of
sources with such terms. Terms never change once a row is there, which is what
`Evolves` records, and every call only moves forward along it.

## Main definitions

* `Terms`, `Terms.Fair`: The terms of a match or tournament.
* `Solvent`: The invariant, with the payments still to be credited.
* `Evolves`: Rows stay, and terms and fees stay with them.
* `Keeps`: A method keeps the invariant and moves forward.

## Theorems

* `call_keeps`: Every call keeps the invariant under every refusal.
* `credited_le_deposited`: The bound, over every run.
-/

namespace SvmCourse

namespace Esports

open Core Core.Prog

/-! ### Terms -/

/-- What a match or tournament row fixes about its prizes when it is created. -/
structure Terms where
  entryFee : Int
  platformFeePercent : ℚ
  prizeStructure : List PrizeEntry
  deriving DecidableEq

/-- The fee is between nothing and everything. -/
def FairFee (platformFeePercent : ℚ) : Prop :=
  0 ≤ platformFeePercent ∧ platformFeePercent ≤ 100

/-- No prize is negative. -/
def FairPrizes (prizeStructure : List PrizeEntry) : Prop :=
  ∀ entry ∈ prizeStructure,
    0 ≤ entry.percentage ∧
      ∀ amount, entry.fixedAmount.bind BigInt.bigInt = some amount → 0 ≤ amount

/-- Fee and prizes are fair. -/
def Terms.Fair (terms : Terms) : Prop :=
  FairFee terms.platformFeePercent ∧ FairPrizes terms.prizeStructure

/-- What a match takes and pays. -/
def Match.terms (m : Match) : Terms := ⟨m.entryFee, m.platformFeePercent, m.prizeStructure⟩

/-- What a tournament takes and pays. -/
def Tournament.terms (t : Tournament) : Terms :=
  ⟨t.entryFee, t.platformFeePercent, t.prizeStructure⟩

/-- The terms of the row behind a source. -/
def Db.terms (db : Db) (source : SourceId) : Option Terms :=
  match source.sourceType with
  | .MATCH => (db.matchRows.findOne source.hex).map Match.terms
  | .TOURNAMENT => (db.tournaments.findOne source.hex).map Tournament.terms

theorem terms_saveMatch (db : Db) (m : Match) (source : SourceId) :
    { db with matchRows := db.matchRows.save m }.terms source =
      if source = m.source then some m.terms else db.terms source := by
  rcases source with ⟨sourceType, hex⟩
  cases sourceType with
  | MATCH =>
      simp only [Db.terms, Table.findOne_save, Match.source, SourceId.mk.injEq, true_and]
      by_cases h : hex = m.matchId
      · rw [if_pos h, if_pos h, Option.map_some]
      · rw [if_neg h, if_neg h]
  | TOURNAMENT =>
      simp only [Db.terms, Match.source, SourceId.mk.injEq, reduceCtorEq, false_and, if_false]

theorem terms_saveTournament (db : Db) (t : Tournament) (source : SourceId) :
    { db with tournaments := db.tournaments.save t }.terms source =
      if source = t.source then some t.terms else db.terms source := by
  rcases source with ⟨sourceType, hex⟩
  cases sourceType with
  | MATCH =>
      simp only [Db.terms, Tournament.source, SourceId.mk.injEq, reduceCtorEq, false_and, if_false]
  | TOURNAMENT =>
      simp only [Db.terms, Table.findOne_save, Tournament.source, SourceId.mk.injEq, true_and]
      by_cases h : hex = t.tournamentId
      · rw [if_pos h, if_pos h, Option.map_some]
      · rw [if_neg h, if_neg h]

/-! ### The invariant -/

/-- What has been credited and what is still to be credited was released, and
    what was released came out of the deposits. -/
def Backed (db : Db) (source : SourceId) (pending : Int) : Prop :=
  match db.escrows.findOne source with
  | none => db.creditedTo source = 0
  | some escrow => FairFee escrow.platformFeePercent →
      db.creditedTo source + pending ≤ escrow.totalReleased ∧
      escrow.totalReleased ≤ db.deposited source ∧
      escrow.totalReleased + escrow.currentBalance ≤ db.deposited source

/-- The invariant, while for each source so much is still to be credited. -/
structure SolventBut (db : Db) (pending : SourceId → Int) : Prop where
  locked : ∀ wallet ∈ db.wallets.rows, 0 ≤ wallet.lockedBalance
  deposits : ∀ tx ∈ db.escrowTxs, tx.type = .DEPOSIT → 0 ≤ tx.amount
  terms : ∀ source x, db.terms source = some x → 0 < x.entryFee ∧
    ∃ escrow, db.escrows.findOne source = some escrow ∧
      escrow.platformFeePercent = x.platformFeePercent
  backed : ∀ source, (∀ x, db.terms source = some x → x.Fair) →
    Backed db source (pending source)

/-- Nothing is owed beyond what there is. -/
abbrev Solvent (db : Db) : Prop := SolventBut db fun _ => 0

/-- Rows are never taken away, and terms and fees are never changed. -/
structure Evolves (s t : Db) : Prop where
  terms : ∀ source x, s.terms source = some x → t.terms source = some x
  escrows : ∀ source escrow, s.escrows.findOne source = some escrow →
    ∃ escrow', t.escrows.findOne source = some escrow' ∧
      escrow'.platformFeePercent = escrow.platformFeePercent

theorem Evolves.refl (s : Db) : Evolves s s where
  terms _ _ h := h
  escrows _ escrow h := ⟨escrow, h, rfl⟩

theorem Evolves.trans {s t u : Db} (h : Evolves s t) (h' : Evolves t u) : Evolves s u where
  terms source x hx := h'.terms source x (h.terms source x hx)
  escrows source escrow he := by
    rcases h.escrows source escrow he with ⟨escrow', he', hfee⟩
    rcases h'.escrows source escrow' he' with ⟨escrow'', he'', hfee'⟩
    exact ⟨escrow'', he'', hfee'.trans hfee⟩

/-- The invariant looks at the locked balances and at five tables. -/
theorem SolventBut.frame {s t : Db} {pending : SourceId → Int} (h : SolventBut s pending)
    (hlocked : ∀ wallet ∈ t.wallets.rows, 0 ≤ wallet.lockedBalance)
    (hescrows : t.escrows = s.escrows) (htxs : t.escrowTxs = s.escrowTxs)
    (hmatches : t.matchRows = s.matchRows) (htournaments : t.tournaments = s.tournaments)
    (hcredited : t.credited = s.credited) : SolventBut t pending ∧ Evolves s t := by
  -- Terms are read off two tables, and deposits off the rows of the escrows.
  have hterms : t.terms = s.terms := by
    funext source
    simp only [Db.terms, hmatches, htournaments]
  have hdeposited : t.deposited = s.deposited := by
    funext source
    simp only [Db.deposited, Db.depositRows, htxs]
  refine ⟨⟨hlocked, ?_, ?_, ?_⟩, ⟨?_, ?_⟩⟩
  · rw [htxs]
    exact h.deposits
  · rw [hterms, hescrows]
    exact h.terms
  · intro source hfair
    have hb := h.backed source (by rwa [hterms] at hfair)
    simp only [Backed, Db.creditedTo, hcredited, hescrows, hdeposited] at hb ⊢
    exact hb
  · rw [hterms]
    exact fun _ _ hx => hx
  · rw [hescrows]
    exact fun _ escrow he => ⟨escrow, he, rfl⟩

theorem locked_save {db : Db} {wallet : PlayerWallet}
    (h : ∀ w ∈ db.wallets.rows, 0 ≤ w.lockedBalance) (hw : 0 ≤ wallet.lockedBalance) :
    ∀ w ∈ (db.wallets.save wallet).rows, 0 ≤ w.lockedBalance := by
  intro w hmem
  rcases Table.mem_save.mp hmem with rfl | ⟨hold, _⟩
  · exact hw
  · exact h w hold

theorem deposited_withEscrowTxs (db : Db) (txs : List EscrowTransaction) (source : SourceId) :
    (db.withEscrowTxs txs).deposited source = db.deposited source +
      ((txs.filter fun tx => tx.escrowId = source && tx.type = .DEPOSIT).map
        EscrowTransaction.amount).sum := by
  simp only [Db.deposited, Db.depositRows, Db.withEscrowTxs, List.filter_append, List.map_append,
    List.sum_append]

theorem depositSum_nonneg {txs : List EscrowTransaction} (source : SourceId)
    (h : ∀ tx ∈ txs, tx.type = .DEPOSIT → 0 ≤ tx.amount) :
    0 ≤ ((txs.filter fun tx => tx.escrowId = source && tx.type = .DEPOSIT).map
      EscrowTransaction.amount).sum := by
  refine List.sum_nonneg fun a ha => ?_
  rcases List.mem_map.mp ha with ⟨tx, htx, rfl⟩
  rw [List.mem_filter, Bool.and_eq_true, decide_eq_true_eq, decide_eq_true_eq] at htx
  exact h tx htx.1 htx.2.2

/-- Writing escrow rows and the escrow itself keeps the invariant when the
    three numbers of that escrow still add up. What the released total gains
    may then be credited. -/
theorem SolventBut.saveEscrow {s : Db} (h : Solvent s) {escrow escrow' : EscrowAccount}
    {txs : List EscrowTransaction} {gain : Int}
    (hfind : s.escrows.findOne escrow'.escrowId = some escrow)
    (hfee : escrow'.platformFeePercent = escrow.platformFeePercent)
    (htxs : ∀ tx ∈ txs, tx.type = .DEPOSIT → 0 ≤ tx.amount)
    (hsum : (∀ x, s.terms escrow'.escrowId = some x → x.Fair) →
      FairFee escrow.platformFeePercent → ∀ before after : Int,
      after = before + ((txs.filter fun tx =>
        tx.escrowId = escrow'.escrowId && tx.type = .DEPOSIT).map EscrowTransaction.amount).sum →
      escrow.totalReleased ≤ before → escrow.totalReleased + escrow.currentBalance ≤ before →
      escrow.totalReleased + gain ≤ escrow'.totalReleased ∧ escrow'.totalReleased ≤ after ∧
        escrow'.totalReleased + escrow'.currentBalance ≤ after) :
    SolventBut ((s.withEscrowTxs txs).withEscrow escrow')
        (fun source => if source = escrow'.escrowId then gain else 0) ∧
      Evolves s ((s.withEscrowTxs txs).withEscrow escrow') := by
  have hkeep : ∀ source found, s.escrows.findOne source = some found →
      ∃ found', (s.escrows.save escrow').findOne source = some found' ∧
        found'.platformFeePercent = found.platformFeePercent := by
    intro source found hfound
    by_cases hsource : source = escrow'.escrowId
    · subst hsource
      rw [hfind, Option.some.injEq] at hfound
      exact ⟨escrow', Table.findOne_save_self _ _, hfee.trans (congrArg _ hfound)⟩
    · exact ⟨found, (Table.findOne_save_of_ne hsource).trans hfound, rfl⟩
  refine ⟨⟨h.locked, ?_, ?_, ?_⟩, ⟨fun _ _ hx => hx, hkeep⟩⟩
  · intro tx htx
    rcases List.mem_append.mp htx with hold | hnew
    · exact h.deposits tx hold
    · exact htxs tx hnew
  · intro source x hx
    rcases h.terms source x hx with ⟨hpos, found, hfound, hxfee⟩
    rcases hkeep source found hfound with ⟨found', hfound', hfee'⟩
    exact ⟨hpos, found', hfound', hfee'.trans hxfee⟩
  · intro source hfair
    have hold := h.backed source hfair
    have hdep := deposited_withEscrowTxs s txs source
    have hnonneg := depositSum_nonneg source htxs
    -- Only the rows of this escrow count for it; the others can only gain.
    have hsave : ((s.withEscrowTxs txs).withEscrow escrow').escrows.findOne source =
        if source = escrow'.escrowId then some escrow' else s.escrows.findOne source :=
      Table.findOne_save _ _ _
    have hdep' : ((s.withEscrowTxs txs).withEscrow escrow').deposited source =
        (s.withEscrowTxs txs).deposited source := rfl
    have hcred : ((s.withEscrowTxs txs).withEscrow escrow').creditedTo source =
        s.creditedTo source := rfl
    unfold Backed at hold ⊢
    rw [hsave, hdep', hcred]
    by_cases hsource : source = escrow'.escrowId
    · subst hsource
      rw [hfind] at hold
      rw [if_pos rfl, if_pos rfl]
      intro hfairFee
      rw [hfee] at hfairFee
      rcases hold hfairFee with ⟨hpaid, hrel, hbal⟩
      rcases hsum hfair hfairFee _ _ hdep hrel hbal with ⟨hgrow, hrel', hbal'⟩
      refine ⟨?_, hrel', hbal'⟩
      omega
    · rw [if_neg hsource, if_neg hsource]
      generalize hfound : s.escrows.findOne source = found at hold ⊢
      cases found with
      | none => exact hold
      | some other =>
          intro hfairFee
          rcases hold hfairFee with ⟨hpaid, hrel, hbal⟩
          refine ⟨hpaid, ?_, ?_⟩
          · omega
          · omega

/-- The same when the released total gains nothing that is to be credited. -/
theorem SolventBut.bookEscrow {s : Db} (h : Solvent s) {escrow escrow' : EscrowAccount}
    {txs : List EscrowTransaction} (hfind : s.escrows.findOne escrow'.escrowId = some escrow)
    (hfee : escrow'.platformFeePercent = escrow.platformFeePercent)
    (htxs : ∀ tx ∈ txs, tx.type = .DEPOSIT → 0 ≤ tx.amount)
    (hsum : (∀ x, s.terms escrow'.escrowId = some x → x.Fair) →
      FairFee escrow.platformFeePercent → ∀ before after : Int,
      after = before + ((txs.filter fun tx =>
        tx.escrowId = escrow'.escrowId && tx.type = .DEPOSIT).map EscrowTransaction.amount).sum →
      escrow.totalReleased ≤ before → escrow.totalReleased + escrow.currentBalance ≤ before →
      escrow.totalReleased ≤ escrow'.totalReleased ∧ escrow'.totalReleased ≤ after ∧
        escrow'.totalReleased + escrow'.currentBalance ≤ after) :
    Solvent ((s.withEscrowTxs txs).withEscrow escrow') ∧
      Evolves s ((s.withEscrowTxs txs).withEscrow escrow') := by
  have hbook : SolventBut ((s.withEscrowTxs txs).withEscrow escrow')
      (fun source => if source = escrow'.escrowId then 0 else 0) ∧
        Evolves s ((s.withEscrowTxs txs).withEscrow escrow') := by
    refine h.saveEscrow hfind hfee htxs ?_
    intro hfair hfairFee before after hafter hrel hbal
    rw [add_zero]
    exact hsum hfair hfairFee before after hafter hrel hbal
  simpa only [ite_self] using hbook

/-- Escrow rows alone can only add to the deposits. -/
theorem SolventBut.addTxs {s : Db} (h : Solvent s) {txs : List EscrowTransaction}
    (htxs : ∀ tx ∈ txs, tx.type = .DEPOSIT → 0 ≤ tx.amount) :
    Solvent (s.withEscrowTxs txs) ∧ Evolves s (s.withEscrowTxs txs) := by
  refine ⟨⟨h.locked, ?_, h.terms, ?_⟩, ⟨fun _ _ hx => hx, fun _ e he => ⟨e, he, rfl⟩⟩⟩
  · intro tx htx
    rcases List.mem_append.mp htx with hold | hnew
    · exact h.deposits tx hold
    · exact htxs tx hnew
  · intro source hfair
    have hold := h.backed source hfair
    have hdep := deposited_withEscrowTxs s txs source
    -- More deposits back more than before.
    have hnonneg := depositSum_nonneg source htxs
    have hcred : (s.withEscrowTxs txs).creditedTo source = s.creditedTo source := rfl
    have hsame : (s.withEscrowTxs txs).escrows.findOne source = s.escrows.findOne source := rfl
    unfold Backed at hold ⊢
    rw [hsame, hcred]
    generalize s.escrows.findOne source = found at hold ⊢
    cases found with
    | none => exact hold
    | some escrow =>
        intro hfairFee
        rcases hold hfairFee with ⟨hpaid, hrel, hbal⟩
        refine ⟨hpaid, ?_, ?_⟩
        · omega
        · omega

/-- A method keeps the invariant, whatever is refused. -/
def Keeps (C : Prop) {α : Type} (p : Service α) (s : Db) : Prop :=
  Solvent s → p.Ensures C s fun _ t => Solvent t ∧ Evolves s t

section Methods

variable {C : Prop} {α β : Type}

/-! ### Wallet and escrow operations -/

theorem SolventBut.wallets {s : Db} {pending : SourceId → Int} (h : SolventBut s pending)
    {wallets : Table PlayerWallet.playerId} {txs : List WalletTransaction}
    (hlocked : ∀ wallet ∈ wallets.rows, 0 ≤ wallet.lockedBalance) :
    SolventBut { s with wallets := wallets, walletTxs := txs } pending ∧
      Evolves s { s with wallets := wallets, walletTxs := txs } :=
  h.frame hlocked rfl rfl rfl rfl rfl

theorem moveFunds_keeps {playerId : String} {allowed : PlayerWallet → Bool}
    {refusal : ServiceError} {record : PlayerWallet → WalletTransaction}
    {change : PlayerWallet → PlayerWallet}
    (hchange : ∀ wallet, allowed wallet = true → 0 ≤ wallet.lockedBalance →
      0 ≤ (change wallet).lockedBalance) (s : Db) :
    Keeps C (moveFunds playerId allowed refusal record fun w db => db.withWallet (change w)) s := by
  intro hs
  refine ensures_mono (moveFunds_ensures playerId allowed refusal record _ s) fun r t ht => ?_
  cases r with
  | ok tx =>
      rcases ht with ⟨wallet, hfind, hok, -, rfl⟩
      have hold := hs.locked wallet (Table.mem_of_findOne hfind)
      exact hs.wallets (locked_save hs.locked (hchange wallet hok hold))
  | error e =>
      rcases ht.1 with rfl | ⟨-, wallet, rfl⟩
      · exact ⟨hs, Evolves.refl t⟩
      · exact hs.wallets hs.locked

theorem deposit_keeps (request : DepositRequest) (s : Db) : Keeps C (deposit request) s := by
  refine moveFunds_keeps ?_ s
  exact fun _ _ h => h

theorem lockFunds_keeps {request : LockFundsRequest} (hamount : 0 ≤ request.amount) (s : Db) :
    Keeps C (lockFunds request) s :=
  moveFunds_keeps (fun _ _ h => Int.add_nonneg h hamount) s

theorem unlockFunds_keeps (request : LockFundsRequest) (s : Db) :
    Keeps C (unlockFunds request) s :=
  moveFunds_keeps (fun _ hok _ => Int.sub_nonneg_of_le (of_decide_eq_true hok)) s

theorem deductEntryFee_keeps (playerId : String) (amount : Int) (s : Db) :
    Keeps C (deductEntryFee playerId amount) s := by
  intro hs
  refine ensures_mono (deductEntryFee_ensures playerId amount s) fun r t ht => ?_
  cases r with
  | ok _ =>
      rcases ht with ⟨wallet, -, hle, rfl⟩
      exact hs.wallets (locked_save hs.locked (Int.sub_nonneg_of_le hle))
  | error e =>
      rw [ht.1]
      exact ⟨hs, Evolves.refl s⟩

theorem createWallet_keeps (request : CreatePlayerWalletRequest) (s : Db) :
    Keeps C (createWallet request) s := by
  intro hs
  refine ensures_mono (createWallet_ensures request s) fun r t ht => ?_
  cases r with
  | ok wallet =>
      rcases ht with ⟨-, -, -, -, hlocked, -, -, -, -, rfl⟩
      exact hs.wallets (locked_save hs.locked hlocked.ge)
  | error e =>
      rw [show t = s from ht]
      exact ⟨hs, Evolves.refl s⟩

theorem withdraw_keeps (request : WithdrawRequest) (s : Db) : Keeps C (withdraw request) s := by
  intro hs
  refine ensures_mono (withdraw_ensures request s) fun r t ht => ?_
  cases r with
  | ok tx =>
      rcases ht with ⟨wallet, paid, hfind, -, -, hlocked, -, -, -, rfl⟩
      -- A withdrawal takes from what is available.
      have hold := hs.locked wallet (Table.mem_of_findOne hfind)
      exact hs.wallets (locked_save hs.locked (hlocked ▸ hold))
  | error e =>
      rcases ht with rfl | ⟨wallet, hfind, current, hsame, u, hu, ht⟩
      · exact ⟨hs, Evolves.refl t⟩
      · have hold := hs.locked wallet (Table.mem_of_findOne hfind)
        -- The reset of a new day may have been saved before the error.
        have hulocked : ∀ w ∈ u.wallets.rows, 0 ≤ w.lockedBalance := by
          rcases hu with rfl | rfl
          · exact hs.locked
          · exact locked_save hs.locked (hsame.2.2 ▸ hold)
        rcases hu with rfl | rfl
        · rcases ht with rfl | ⟨tx, -, -, rfl⟩
          · exact ⟨hs, Evolves.refl t⟩
          · exact hs.wallets hulocked
        · rcases ht with rfl | ⟨tx, -, -, rfl⟩
          · exact hs.wallets hulocked
          · exact hs.wallets hulocked

theorem saveEscrowStatus {s : Db} (hs : Solvent s) {escrow : EscrowAccount}
    (hfind : s.escrows.findOne escrow.escrowId = some escrow) (status : EscrowStatus) :
    Solvent (s.withEscrow { escrow with status := status }) ∧
      Evolves s (s.withEscrow { escrow with status := status }) := by
  have hnil : s.withEscrowTxs [] = s := by simp only [Db.withEscrowTxs, List.append_nil]
  have hfind' : s.escrows.findOne { escrow with status := status }.escrowId = some escrow := hfind
  have h : Solvent ((s.withEscrowTxs []).withEscrow { escrow with status := status }) ∧
      Evolves s ((s.withEscrowTxs []).withEscrow { escrow with status := status }) := by
    refine hs.bookEscrow hfind' rfl (fun tx htx => absurd htx List.not_mem_nil) ?_
    intro _ _ before after hafter hrel hbal
    simp only [List.filter_nil, List.map_nil, List.sum_nil, add_zero] at hafter
    rw [hafter]
    exact ⟨le_refl _, hrel, hbal⟩
  rwa [hnil] at h

theorem lockEscrow_keeps (escrowId : SourceId) (s : Db) : Keeps C (lockEscrow escrowId) s := by
  intro hs
  refine ensures_mono (lockEscrow_ensures escrowId s) fun r t ht => ?_
  cases r with
  | ok _ =>
      rcases ht with ⟨escrow, hfind, -, rfl⟩
      exact saveEscrowStatus hs (Table.key_of_findOne hfind ▸ hfind) .LOCKED
  | error e =>
      rw [ht.1]
      exact ⟨hs, Evolves.refl s⟩

theorem closeEscrow_keeps (escrowId : SourceId) (s : Db) : Keeps C (closeEscrow escrowId) s := by
  intro hs
  refine ensures_mono (closeEscrow_ensures escrowId s) fun r t ht => ?_
  rcases ht with rfl | ⟨escrow, hfind, rfl⟩
  · exact ⟨hs, Evolves.refl t⟩
  · exact saveEscrowStatus hs (Table.key_of_findOne hfind ▸ hfind) .CLOSED

theorem createEscrow_keeps (request : CreateEscrowRequest) (s : Db) :
    Keeps C (createEscrow request) s := by
  intro hs
  refine ensures_mono (createEscrow_ensures request s) fun r t ht => ?_
  cases r with
  | error e =>
      rw [ht.1]
      exact ⟨hs, Evolves.refl s⟩
  | ok escrow =>
      rcases ht with ⟨hnone, -, rfl⟩
      have hne : ∀ source found, s.escrows.findOne source = some found →
          source ≠ (newEscrow request).escrowId := by
        rintro source found hfound rfl
        have hnone' : s.escrows.findOne (newEscrow request).escrowId = none := hnone
        rw [hnone'] at hfound
        exact nomatch hfound
      have hkeep : ∀ source found, s.escrows.findOne source = some found →
          (s.escrows.save (newEscrow request)).findOne source = some found :=
        fun source found hfound =>
          (Table.findOne_save_of_ne (hne source found hfound)).trans hfound
      refine ⟨⟨hs.locked, hs.deposits, ?_, ?_⟩,
        ⟨fun _ _ hx => hx, fun source found hf => ⟨found, hkeep source found hf, rfl⟩⟩⟩
      · intro source x hx
        rcases hs.terms source x hx with ⟨hpos, found, hfound, hfee⟩
        exact ⟨hpos, found, hkeep source found hfound, hfee⟩
      · intro source hfair
        have hold := hs.backed source hfair
        have hsave : (s.withEscrow (newEscrow request)).escrows.findOne source =
            if source = (newEscrow request).escrowId then some (newEscrow request)
            else s.escrows.findOne source := Table.findOne_save _ _ _
        unfold Backed at hold ⊢
        rw [hsave]
        by_cases hsource : source = (newEscrow request).escrowId
        · -- Nothing was credited for a source without an escrow.
          have hnone' : s.escrows.findOne source = none := hsource ▸ hnone
          rw [hnone'] at hold
          rw [if_pos hsource]
          intro _
          have hcred : (s.withEscrow (newEscrow request)).creditedTo source = 0 := hold
          have hdep : 0 ≤ (s.withEscrow (newEscrow request)).deposited source :=
            depositSum_nonneg source hs.deposits
          have hreleased : (newEscrow request).totalReleased = 0 := rfl
          have hbalance : (newEscrow request).currentBalance = 0 := rfl
          omega
        · rw [if_neg hsource]
          exact hold

theorem depositToEscrow_keeps {request : DepositToEscrowRequest} (hamount : 0 ≤ request.amount)
    (s : Db) : Keeps C (depositToEscrow request) s := by
  intro hs
  have hrow : ∀ tx ∈ [depositTx request], tx.type = .DEPOSIT → 0 ≤ tx.amount := by
    intro tx htx _
    rw [List.mem_singleton] at htx
    rw [htx]
    exact hamount
  refine ensures_mono (depositToEscrow_ensures request s) fun r t ht => ?_
  cases r with
  | ok _ =>
      rcases ht with ⟨escrow, hfind, -, rfl⟩
      have hkey : escrow.escrowId = request.escrowId := Table.key_of_findOne hfind
      have hkey' : (escrow.afterDeposit request.amount).escrowId = request.escrowId := hkey
      have hfind' : s.escrows.findOne (escrow.afterDeposit request.amount).escrowId =
          some escrow := hkey' ▸ hfind
      -- The balance grows by the amount of the new row.
      refine hs.bookEscrow hfind' rfl hrow fun _ _ before after hafter hrel hbal => ?_
      have hafter' : after = before + request.amount := by
        rw [hafter, hkey']
        simp only [depositTx, decide_true, Bool.and_self, List.filter_cons_of_pos,
          List.filter_nil, List.map_cons, List.map_nil, List.sum_cons, List.sum_nil, add_zero]
      simp only [EscrowAccount.afterDeposit]
      omega
  | error e =>
      -- The row may be there without the new balance.
      rcases ht.1 with rfl | ⟨-, rfl⟩
      · exact ⟨hs, Evolves.refl t⟩
      · exact hs.addTxs hrow

theorem noDeposit_sum {txs : List EscrowTransaction} (source : SourceId)
    (h : ∀ tx ∈ txs, tx.type ≠ .DEPOSIT) :
    ((txs.filter fun tx => tx.escrowId = source && tx.type = .DEPOSIT).map
      EscrowTransaction.amount).sum = 0 := by
  have hnil : (txs.filter fun tx => tx.escrowId = source && tx.type = .DEPOSIT) = [] := by
    refine List.filter_eq_nil_iff.mpr fun tx htx hboth => ?_
    rw [Bool.and_eq_true, decide_eq_true_eq, decide_eq_true_eq] at hboth
    exact h tx htx hboth.2
  rw [hnil, List.map_nil, List.sum_nil]

/-- Wherever a settlement is interrupted, the invariant stands: the old
    balances were fine, and so are the new ones under any status. -/
theorem interrupted_keeps {s t : Db} (hs : Solvent s) {escrow settled : EscrowAccount}
    {back : EscrowStatus} {txs : List EscrowTransaction}
    (hint : SettlementInterrupted s t escrow back txs settled)
    (hfind : s.escrows.findOne escrow.escrowId = some escrow)
    (hkey : settled.escrowId = escrow.escrowId)
    (hfee : settled.platformFeePercent = escrow.platformFeePercent)
    (htxs : ∀ tx ∈ txs, tx.type ≠ .DEPOSIT)
    (hsum : (∀ x, s.terms settled.escrowId = some x → x.Fair) →
      FairFee escrow.platformFeePercent → escrow.totalReleased ≤ settled.totalReleased ∧
        settled.totalReleased + settled.currentBalance ≤
          escrow.totalReleased + escrow.currentBalance ∧
        (settled.totalReleased ≤ escrow.totalReleased ∨ 0 ≤ settled.currentBalance)) :
    Solvent t ∧ Evolves s t := by
  rcases hint with rfl | ⟨left, written, hleft, hwritten, rfl⟩
  · exact ⟨hs, Evolves.refl t⟩
  · have hnone : ∀ tx ∈ written, tx.type ≠ .DEPOSIT := fun tx h => htxs tx (hwritten tx h)
    have hnonneg : ∀ tx ∈ written, tx.type = .DEPOSIT → 0 ≤ tx.amount :=
      fun tx h htype => absurd htype (hnone tx h)
    have hzero := fun source => noDeposit_sum source hnone
    -- The escrow is as it was but for its status, or as it should be but for its
    -- status.
    rcases hleft with ⟨status, rfl⟩ | rfl
    · refine hs.bookEscrow hfind rfl hnonneg fun _ _ before after hafter hrel hbal => ?_
      rw [hzero, add_zero] at hafter
      rw [hafter]
      exact ⟨le_refl _, hrel, hbal⟩
    · have hfind' : s.escrows.findOne { settled with status := back }.escrowId = some escrow :=
        hkey ▸ hfind
      refine hs.bookEscrow hfind' hfee hnonneg fun hfair hfairFee before after hafter
        hrel hbal => ?_
      rw [hzero, add_zero] at hafter
      rcases hsum hfair hfairFee with ⟨hgrow, htotal, hor⟩
      subst hafter
      refine ⟨hgrow, ?_, ?_⟩
      · rcases hor with hor | hor
        · exact hor.trans hrel
        · have hle : settled.totalReleased ≤
              escrow.totalReleased + escrow.currentBalance := by omega
          exact hle.trans hbal
      · exact htotal.trans hbal

/-- The numbers of an escrow that releases no more than it holds after fees. -/
theorem afterRelease_bounds {escrow : EscrowAccount} {fee total : Int}
    (hfee : fee = platformFeeOf escrow.currentBalance escrow.platformFeePercent)
    (hcan : escrow.canRelease = true) (htotal : total ≤ escrow.currentBalance - fee)
    (hfair : FairFee escrow.platformFeePercent) :
    escrow.totalReleased + total ≤ (escrow.afterRelease total fee).totalReleased ∧
      (escrow.afterRelease total fee).totalReleased +
        (escrow.afterRelease total fee).currentBalance ≤
          escrow.totalReleased + escrow.currentBalance ∧
      0 ≤ (escrow.afterRelease total fee).currentBalance := by
  have hpos : 0 < escrow.currentBalance := by
    unfold EscrowAccount.canRelease at hcan
    rw [Bool.and_eq_true, decide_eq_true_eq, decide_eq_true_eq] at hcan
    exact hcan.2
  have hfee0 : 0 ≤ fee := hfee ▸ platformFeeOf_nonneg hpos.le hfair.1 hfair.2
  simp only [EscrowAccount.afterRelease]
  omega

theorem released_solventBut {s : Db} (hs : Solvent s) {request : ReleaseEscrowRequest}
    {escrow : EscrowAccount} {fee : Int} (hfind : s.escrows.findOne request.escrowId = some escrow)
    (hfee : fee = platformFeeOf escrow.currentBalance escrow.platformFeePercent)
    (hcan : escrow.canRelease = true) (htotal : request.total ≤ escrow.currentBalance - fee)
    (hnonneg : (∀ x, s.terms request.escrowId = some x → x.Fair) → 0 ≤ request.total) :
    SolventBut ((s.withEscrowTxs (releaseTxs request fee)).withEscrow
        (escrow.afterRelease request.total fee))
        (fun source => if source = request.escrowId then request.total else 0) ∧
      Evolves s ((s.withEscrowTxs (releaseTxs request fee)).withEscrow
        (escrow.afterRelease request.total fee)) := by
  have hkey : (escrow.afterRelease request.total fee).escrowId = request.escrowId :=
    show escrow.escrowId = request.escrowId from Table.key_of_findOne hfind
  have hfind' : s.escrows.findOne (escrow.afterRelease request.total fee).escrowId = some escrow :=
    hkey ▸ hfind
  have htype := releaseTxs_type request fee
  rw [← hkey]
  refine hs.saveEscrow hfind' rfl (fun tx htx h => absurd h (htype tx htx)) ?_
  intro hfair hfairFee before after hafter hrel hbal
  rw [noDeposit_sum _ htype, add_zero] at hafter
  rw [hkey] at hfair
  -- What leaves the balance has been released, less the fee that the platform keeps.
  have hbounds := afterRelease_bounds hfee hcan htotal hfairFee
  have htotal0 := hnonneg hfair
  omega

theorem payments_total_nonneg {request : ReleaseEscrowRequest}
    (h : ∀ dist ∈ request.distributions, 0 ≤ dist.amount) : 0 ≤ request.total := by
  refine List.sum_nonneg fun a ha => ?_
  rcases List.mem_map.mp ha with ⟨dist, hdist, rfl⟩
  exact h dist hdist

theorem SolventBut.mono {s : Db} {pending pending' : SourceId → Int} (h : SolventBut s pending)
    (hle : ∀ source, (∀ x, s.terms source = some x → x.Fair) → pending' source ≤ pending source) :
    SolventBut s pending' := by
  refine ⟨h.locked, h.deposits, h.terms, fun source hfair => ?_⟩
  have hold := h.backed source hfair
  have hpending := hle source hfair
  unfold Backed at hold ⊢
  generalize s.escrows.findOne source = found at hold ⊢
  cases found with
  | none => exact hold
  | some escrow =>
      intro hfairFee
      rcases hold hfairFee with ⟨hpaid, hrel, hbal⟩
      refine ⟨?_, hrel, hbal⟩
      omega

theorem releaseEscrow_keeps {request : ReleaseEscrowRequest}
    (hamounts : ∀ dist ∈ request.distributions, 0 ≤ dist.amount) (s : Db) :
    Keeps C (releaseEscrow request) s := by
  intro hs
  have hnonneg := payments_total_nonneg hamounts
  refine ensures_mono (releaseEscrow_ensures request s) fun r t ht => ?_
  cases r with
  | ok _ =>
      rcases ht with ⟨escrow, fee, hfind, hfee, hcan, htotal, rfl⟩
      have h := released_solventBut hs hfind hfee hcan htotal fun _ => hnonneg
      refine ⟨h.1.mono fun source _ => ?_, h.2⟩
      split
      · exact hnonneg
      · exact le_refl 0
  | error e =>
      rcases ht with ⟨rfl, -⟩ | ⟨-, escrow, fee, hfind, hfee, hcan, htotal, hint⟩
      · exact ⟨hs, Evolves.refl t⟩
      · have hkey : escrow.escrowId = request.escrowId := Table.key_of_findOne hfind
        refine interrupted_keeps hs hint (hkey ▸ hfind) rfl rfl (releaseTxs_type request fee) ?_
        intro _ hfairFee
        -- The new balances are within the old ones, wherever the release stopped.
        have hbounds := afterRelease_bounds hfee hcan htotal hfairFee
        exact ⟨by omega, hbounds.2.1, Or.inr hbounds.2.2⟩

theorem refundEscrow_keeps (request : RefundEscrowRequest) (s : Db) :
    Keeps C (refundEscrow request) s := by
  intro hs
  -- What is refunded are deposits, which are not negative.
  have hsum : ∀ deposits, deposits = s.escrowTxs.filter request.covers →
      0 ≤ (deposits.map EscrowTransaction.amount).sum := by
    rintro deposits rfl
    refine List.sum_nonneg fun a ha => ?_
    rcases List.mem_map.mp ha with ⟨tx, htx, rfl⟩
    rcases List.mem_filter.mp htx with ⟨hmem, hcovers⟩
    unfold RefundEscrowRequest.covers at hcovers
    rw [Bool.and_eq_true, Bool.and_eq_true, decide_eq_true_eq, decide_eq_true_eq] at hcovers
    exact hs.deposits tx hmem hcovers.1.2
  refine ensures_mono (refundEscrow_ensures request s) fun r t ht => ?_
  cases r with
  | ok _ =>
      rcases ht with ⟨escrow, deposits, hfind, hdeposits, -, -, rfl⟩
      have hnonneg := hsum deposits hdeposits
      have hkey : escrow.escrowId = request.escrowId := Table.key_of_findOne hfind
      have htype := refundTxs_type request deposits
      have hfind' : s.escrows.findOne
          (escrow.afterRefund (deposits.map EscrowTransaction.amount).sum).escrowId =
            some escrow := by
        simp only [EscrowAccount.afterRefund, hkey, hfind]
      -- A refund lowers the balance and releases nothing.
      refine hs.bookEscrow hfind' rfl (fun tx htx h => absurd h (htype tx htx)) ?_
      intro _ _ before after hafter hrel hbal
      rw [noDeposit_sum _ htype, add_zero] at hafter
      simp only [EscrowAccount.afterRefund]
      omega
  | error e =>
      rcases ht.1 with rfl | ⟨-, escrow, deposits, hfind, hdeposits, -, hint⟩
      · exact ⟨hs, Evolves.refl t⟩
      · have hnonneg := hsum deposits hdeposits
        have hkey : escrow.escrowId = request.escrowId := Table.key_of_findOne hfind
        refine interrupted_keeps hs hint (hkey ▸ hfind) rfl rfl (refundTxs_type request deposits) ?_
        intro _ _
        simp only [EscrowAccount.afterRefund]
        exact ⟨le_refl _, by omega, Or.inl (le_refl _)⟩

/-! ### Payouts -/

theorem percentageShare_nonneg {amount share : Int} {percentage : ℚ} (hamount : 0 ≤ amount)
    (hpercent : 0 ≤ percentage) (h : percentageShare amount percentage = .ok share) :
    0 ≤ share := by
  unfold percentageShare at h
  split at h
  · next percent hsome =>
      have hcast := bigIntOfNumber_eq_some hsome
      have hpercent' : 0 ≤ percent := by
        rw [hcast] at hpercent
        exact_mod_cast hpercent
      rw [← Except.ok.inj h]
      exact Int.tdiv_nonneg (Int.mul_nonneg hamount hpercent') (by omega)
  · exact nomatch h

theorem tournamentAmount_nonneg {amount value : Int} {entry : PrizeEntry} (hamount : 0 ≤ amount)
    (hpercent : 0 ≤ entry.percentage)
    (hfixed : ∀ amount, entry.fixedAmount.bind BigInt.bigInt = some amount → 0 ≤ amount)
    (h : tournamentAmount amount entry = .ok value) : 0 ≤ value := by
  unfold tournamentAmount orMissing at h
  -- A fixed amount is read from its text, and a percentage is a share.
  by_cases htruthy : truthy entry.fixedAmount = true
  · rw [if_pos htruthy] at h
    cases htext : entry.fixedAmount with
    | none =>
        rw [htext] at htruthy
        exact nomatch htruthy
    | some text =>
        rw [htext] at h hfixed
        simp only [bigIntOfText] at h
        cases hread : BigInt.bigInt text with
        | none =>
            rw [hread] at h
            exact nomatch h
        | some fixed =>
            rw [hread] at h
            rw [← Except.ok.inj h]
            exact hfixed fixed hread
  · rw [if_neg htruthy] at h
    exact percentageShare_nonneg hamount hpercent h

theorem prizeStrategyConfig_fair (strategy : PrizeDistributionStrategy) :
    FairPrizes (prizeStrategyConfig strategy).structure_ := by
  unfold FairPrizes
  cases strategy <;>
    simp only [prizeStrategyConfig, List.mem_cons, List.not_mem_nil, or_false, forall_eq_or_imp,
      forall_eq, Option.bind_none, reduceCtorEq, implies_true, and_true, IsEmpty.forall_iff] <;>
    norm_num

theorem matchPayments_nonneg {m : Match} {participants : List MatchParticipant} {amount : Int}
    {dists : List PrizeCalculation} (hfair : ∀ entry ∈ m.prizeStructure, 0 ≤ entry.percentage)
    (hamount : 0 ≤ amount)
    (h : calculateMatchDistributionsByStrategy m participants amount = .ok dists) :
    ∀ d ∈ dists, 0 ≤ d.amount := by
  -- The structure of the match is fair, and so are those of the strategies.
  have hprizes : ∀ entry ∈ (if m.prizeStructure.isEmpty then
      (prizeStrategyConfig m.prizeStrategy).structure_ else m.prizeStructure),
        0 ≤ entry.percentage := by
    split
    · exact fun entry hentry => (prizeStrategyConfig_fair _ entry hentry).1
    · exact hfair
  unfold calculateMatchDistributionsByStrategy at h
  simp only at h
  generalize (if m.prizeStructure.isEmpty then
    (prizeStrategyConfig m.prizeStrategy).structure_ else m.prizeStructure) = prizes at h hprizes
  have hnone : ∀ d ∈ ([] : List PrizeCalculation), 0 ≤ d.amount :=
    fun d hd => absurd hd List.not_mem_nil
  split at h
  · rw [← Except.ok.inj h]
    exact hnone
  · split at h
    · rw [← Except.ok.inj h]
      exact hnone
    · refine collectPayments_forall (fun entry hentry d hd => ?_) h
      -- An entry without a recipient makes no payment.
      unfold matchPayment at hd
      split at hd
      · exact nomatch hd
      · generalize hshare : percentageShare amount entry.percentage = share at hd
        cases share with
        | error e => exact nomatch hd
        | ok value =>
            rw [← Option.some.inj (Except.ok.inj hd)]
            exact percentageShare_nonneg hamount (hprizes entry hentry) hshare

theorem tournamentPayments_nonneg {t : Tournament} {registrations : List TournamentRegistration}
    {amount : Int} {dists : List PrizeCalculation} (hfair : FairPrizes t.prizeStructure)
    (hamount : 0 ≤ amount)
    (h : calculateTournamentDistributionsByStrategy t registrations amount = .ok dists) :
    ∀ d ∈ dists, 0 ≤ d.amount := by
  refine collectPayments_forall (fun entry hentry d hd => ?_) h
  rcases hfair entry hentry with ⟨hpercent, hfixed⟩
  -- Somebody gets the entry, and its amount could be read.
  unfold tournamentPayment at hd
  split at hd
  · exact nomatch hd
  · split at hd
    · exact nomatch hd
    · next registration _ =>
        generalize hvalue : tournamentAmount amount entry = share at hd
        cases share with
        | error e => exact nomatch hd
        | ok value =>
            rw [← Option.some.inj (Except.ok.inj hd)]
            exact tournamentAmount_nonneg hamount hpercent hfixed hvalue

/-- Crediting moves an amount from what is pending to what is credited. -/
theorem credited_solventBut {s t : Db} {source : SourceId} {amount rest : Int}
    (h : SolventBut s fun source' => if source' = source then amount + rest else 0)
    (hlocked : ∀ wallet ∈ t.wallets.rows, 0 ≤ wallet.lockedBalance)
    (hescrows : t.escrows = s.escrows) (htxs : t.escrowTxs = s.escrowTxs)
    (hmatches : t.matchRows = s.matchRows) (htournaments : t.tournaments = s.tournaments)
    (hcredited : t.credited = s.credited ++ [(source, amount)])
    (hescrow : ∃ escrow, s.escrows.findOne source = some escrow) :
    SolventBut t (fun source' => if source' = source then rest else 0) ∧ Evolves s t := by
  -- Everything but the credits is as before.
  have hframe := h.frame (t := { t with credited := s.credited }) hlocked hescrows htxs hmatches
    htournaments rfl
  refine ⟨⟨hlocked, hframe.1.deposits, hframe.1.terms, fun source' hfair => ?_⟩,
    ⟨hframe.2.terms, hframe.2.escrows⟩⟩
  have hold := hframe.1.backed source' hfair
  have hcred : t.creditedTo source' =
      s.creditedTo source' + if source' = source then amount else 0 := by
    simp only [Db.creditedTo, hcredited, List.filter_append, List.map_append, List.sum_append]
    by_cases hsource : source' = source
    · rw [hsource, if_pos rfl]
      simp only [decide_true, List.filter_cons_of_pos, List.filter_nil, List.map_cons,
        List.map_nil, List.sum_cons, List.sum_nil, add_zero]
    · rw [if_neg hsource]
      have hne : ¬source = source' := fun he => hsource he.symm
      simp only [hne, decide_false, Bool.false_eq_true, not_false_eq_true,
        List.filter_cons_of_neg, List.filter_nil, List.map_nil, List.sum_nil]
  have hcred' : ({ t with credited := s.credited } : Db).creditedTo source' =
      s.creditedTo source' := rfl
  unfold Backed at hold ⊢
  rw [hcred'] at hold
  rw [hcred]
  change match t.escrows.findOne source' with
    | none => _
    | some escrow => _ at hold
  by_cases hsource : source' = source
  · rcases hescrow with ⟨escrow, hfound⟩
    rw [hsource, hescrows, hfound] at hold ⊢
    rw [if_pos rfl] at hold
    rw [if_pos rfl, if_pos rfl]
    intro hfairFee
    rcases hold hfairFee with ⟨hpaid, hrel, hbal⟩
    refine ⟨?_, hrel, hbal⟩
    omega
  · rw [if_neg hsource] at hold
    rw [if_neg hsource, if_neg hsource, add_zero]
    exact hold

/-- The row that remembers a prize is a participant or a registration. -/
def MarksRows (C : Prop) (mark : PrizeCalculation → Service Unit) : Prop :=
  ∀ dist s, (mark dist).Ensures C s fun _ t => ∃ participants registrations,
    t = { s with participants := participants, registrations := registrations }

theorem markParticipant_marksRows (matchId : String) : MarksRows C (markParticipant matchId) :=
  fun _ s => ensures_perform ⟨_, s.registrations, rfl⟩ fun _ => ⟨_, _, rfl⟩

theorem markRegistration_marksRows (tournamentId : String) :
    MarksRows C (markRegistration tournamentId) :=
  fun _ s => ensures_perform ⟨s.participants, _, rfl⟩ fun _ => ⟨_, _, rfl⟩

/-- A payout whose terms are those of its row and whose payments are not
    negative when the terms are fair. -/
structure HonestPayout (C : Prop) (payout : Payout) (terms : Terms) (s : Db) : Prop where
  row : s.terms payout.source = some terms
  nonneg : terms.Fair → ∀ amount dists, 0 ≤ amount → payout.calculate amount = .ok dists →
    ∀ d ∈ dists, 0 ≤ d.amount
  fee : payout.platformFeePercent = terms.platformFeePercent
  mark : MarksRows C payout.mark

/-- The store between two credits: everything is released, and the payments
    still to come are pending. -/
structure Crediting (payout : Payout) (terms : Terms) (s : Db) (rest : List PrizeCalculation)
    (u : Db) : Prop where
  solvent : SolventBut u fun source =>
    if source = payout.source then (rest.map PrizeCalculation.amount).sum else 0
  evolves : Evolves s u
  escrow : ∃ escrow, u.escrows.findOne payout.source = some escrow
  nonneg : terms.Fair → ∀ d ∈ rest, 0 ≤ d.amount

theorem HonestPayout.payments_nonneg {payout : Payout} {terms : Terms} {s : Db}
    (hp : HonestPayout C payout terms s) {escrow : EscrowAccount} {fee : Int}
    {dists : List PrizeCalculation} (hready : PayoutReady payout s escrow fee dists)
    (hfair : terms.Fair) :
    (∀ d ∈ dists, 0 ≤ d.amount) ∧ 0 ≤ (paymentsOf payout.source dists).total := by
  have hpos : 0 < escrow.currentBalance := by
    have hcan := hready.canRelease
    unfold EscrowAccount.canRelease at hcan
    rw [Bool.and_eq_true, decide_eq_true_eq, decide_eq_true_eq] at hcan
    exact hcan.2
  -- The fee is not more than the balance, so there is something to share.
  have hdists : ∀ d ∈ dists, 0 ≤ d.amount := by
    refine hp.nonneg hfair _ dists ?_ hready.calculated
    rw [hp.fee]
    exact Int.sub_nonneg_of_le (platformFeeOf_le hpos.le hfair.1.1 hfair.1.2)
  refine ⟨hdists, ?_⟩
  rw [paymentsOf_total]
  refine List.sum_nonneg fun a ha => ?_
  rcases List.mem_map.mp ha with ⟨d, hd, rfl⟩
  exact hdists d hd

theorem crediting_start {payout : Payout} {terms : Terms} {s : Db} (hs : Solvent s)
    (hp : HonestPayout C payout terms s) {escrow : EscrowAccount} {fee : Int}
    {dists : List PrizeCalculation} (hready : PayoutReady payout s escrow fee dists) :
    Crediting payout terms s dists
      ((s.withEscrowTxs (releaseTxs (paymentsOf payout.source dists) fee)).withEscrow
        (escrow.afterRelease (paymentsOf payout.source dists).total fee)) := by
  have hfind : s.escrows.findOne (paymentsOf payout.source dists).escrowId = some escrow :=
    hready.find
  have hrel := released_solventBut hs hfind hready.fee_eq hready.canRelease hready.total_le
    fun hx => (hp.payments_nonneg hready (hx terms hp.row)).2
  rcases hrel.2.escrows _ _ hready.find with ⟨escrow', he', -⟩
  refine ⟨?_, hrel.2, ⟨escrow', he'⟩, fun hfair => (hp.payments_nonneg hready hfair).1⟩
  rw [← paymentsOf_total]
  exact hrel.1

/-- A payment that is not credited now never is. -/
theorem Crediting.skip {payout : Payout} {terms : Terms} {s u : Db} {dist : PrizeCalculation}
    {rest : List PrizeCalculation} (hrow : s.terms payout.source = some terms)
    (h : Crediting payout terms s (dist :: rest) u) : Crediting payout terms s rest u := by
  refine ⟨h.solvent.mono fun source hx => ?_, h.evolves, h.escrow,
    fun hfair d hd => h.nonneg hfair d (List.mem_cons_of_mem _ hd)⟩
  by_cases hsource : source = payout.source
  · subst hsource
    rw [if_pos rfl, if_pos rfl, List.map_cons, List.sum_cons]
    have hfair := hx terms (h.evolves.terms _ _ hrow)
    have hpos := h.nonneg hfair dist (List.mem_cons_self ..)
    omega
  · rw [if_neg hsource, if_neg hsource]

/-- Tables the invariant does not look at may change between credits. -/
theorem Crediting.frame {payout : Payout} {terms : Terms} {s u v : Db}
    {rest : List PrizeCalculation} (h : Crediting payout terms s rest u)
    (hwallets : v.wallets = u.wallets) (hescrows : v.escrows = u.escrows)
    (htxs : v.escrowTxs = u.escrowTxs) (hmatches : v.matchRows = u.matchRows)
    (htournaments : v.tournaments = u.tournaments) (hcredited : v.credited = u.credited) :
    Crediting payout terms s rest v := by
  have hlocked : ∀ wallet ∈ v.wallets.rows, 0 ≤ wallet.lockedBalance := by
    rw [hwallets]
    exact h.solvent.locked
  have hframe := h.solvent.frame hlocked hescrows htxs hmatches htournaments hcredited
  refine ⟨hframe.1, h.evolves.trans hframe.2, ?_, h.nonneg⟩
  rw [hescrows]
  exact h.escrow

theorem creditOne_crediting {payout : Payout} {terms : Terms} {s u : Db}
    {dist : PrizeCalculation} {rest : List PrizeCalculation}
    (hp : HonestPayout C payout terms s) (h : Crediting payout terms s (dist :: rest) u) :
    (creditOne payout.source payout.mark dist).Ensures C u fun _ t =>
      Crediting payout terms s rest t := by
  refine ensures_bind (ensures_mono (moveFunds_ensures _ _ _ _ _ u) fun r t ht => ?_)
  cases r with
  | error e =>
      -- A credit that fails owes the player less than before.
      rcases ht.1 with rfl | ⟨-, wallet, rfl⟩
      · exact h.skip hp.row
      · exact (h.skip hp.row).frame rfl rfl rfl rfl rfl rfl
  | ok tx =>
      -- The amount moves from what is owed to what was credited.
      rcases ht with ⟨wallet, hfind, -, -, ht⟩
      have hold := h.solvent.locked wallet (Table.mem_of_findOne hfind)
      have hbut := h.solvent
      rw [List.map_cons, List.sum_cons] at hbut
      have hcredit : SolventBut t (fun source => if source = payout.source then
          (rest.map PrizeCalculation.amount).sum else 0) ∧ Evolves u t := by
        refine credited_solventBut hbut ?_ ?_ ?_ ?_ ?_ ?_ h.escrow
        · rw [ht]
          exact locked_save hbut.locked hold
        all_goals subst ht; rfl
      have hdone : Crediting payout terms s rest t := by
        refine ⟨hcredit.1, h.evolves.trans hcredit.2, ?_, (h.skip hp.row).nonneg⟩
        rcases h.escrow with ⟨escrow, he⟩
        rcases hcredit.2.escrows _ _ he with ⟨escrow', he', -⟩
        exact ⟨escrow', he'⟩
      -- The mark writes neither wallets nor escrows.
      refine ensures_mono (hp.mark dist t) fun r v hv => ?_
      rcases hv with ⟨participants, registrations, rfl⟩
      exact hdone.frame rfl rfl rfl rfl rfl rfl

theorem Crediting.done {payout : Payout} {terms : Terms} {s u : Db}
    (h : Crediting payout terms s [] u) : Solvent u ∧ Evolves s u := by
  refine ⟨?_, h.evolves⟩
  simpa only [List.map_nil, List.sum_nil, ite_self] using h.solvent

theorem distribute_keeps {payout : Payout} {terms : Terms} {s : Db}
    (hp : HonestPayout C payout terms s) : Keeps C (distribute payout) s := by
  intro hs
  have hframe : ∀ {u : Db} (prizes : List PrizeDistribution), Solvent u → Evolves s u →
      Solvent (u.withPrizes prizes) ∧ Evolves s (u.withPrizes prizes) := by
    intro u prizes hu hev
    have h := hu.frame (t := u.withPrizes prizes) hu.locked rfl rfl rfl rfl rfl
    exact ⟨h.1, hev.trans h.2⟩
  refine ensures_mono (distribute_ensures _ s (fun _ _ _ h => crediting_start hs hp h)
    (fun _ _ _ h => creditOne_crediting hp h)
    fun _ _ _ h => h.frame rfl rfl rfl rfl rfl rfl) fun r t ht => ?_
  cases r with
  | ok _ => exact Crediting.done ht
  | error e =>
      -- It failed before the escrow was touched, while it was released, or among the
      -- credits.
      rcases ht with ⟨prizes, rfl, -⟩ | ⟨-, prizes, escrow, fee, dists, u, h, hint, rfl⟩ | ⟨-, hJ⟩
      · exact hframe prizes hs (Evolves.refl s)
      · have hkey : escrow.escrowId = payout.source := Table.key_of_findOne h.find
        have hu : Solvent u ∧ Evolves s u := by
          refine interrupted_keeps hs hint (hkey ▸ h.find) rfl rfl (releaseTxs_type _ fee) ?_
          intro hx hfairFee
          have hx' : ∀ x, s.terms payout.source = some x → x.Fair := hkey ▸ hx
          have hnonneg := (hp.payments_nonneg h (hx' terms hp.row)).2
          have hbounds := afterRelease_bounds h.fee_eq h.canRelease h.total_le hfairFee
          exact ⟨by omega, hbounds.2.1, Or.inr hbounds.2.2⟩
        exact hframe prizes hu.1 hu.2
      · exact Crediting.done hJ

/-! ### Rows of matches and tournaments -/

/-- Saving a row whose terms are already the terms of its source, or whose
    source has no row yet and an escrow with the same fee. -/
theorem SolventBut.saveRow {s t : Db} (hs : Solvent s) {source : SourceId} {terms : Terms}
    (hterms : ∀ source', t.terms source' =
      if source' = source then some terms else s.terms source')
    (hold : ∀ x, s.terms source = some x → x = terms) (hpos : 0 < terms.entryFee)
    (hescrow : ∃ escrow, s.escrows.findOne source = some escrow ∧
      escrow.platformFeePercent = terms.platformFeePercent)
    (hwallets : t.wallets = s.wallets) (hescrows : t.escrows = s.escrows)
    (htxs : t.escrowTxs = s.escrowTxs) (hcredited : t.credited = s.credited) :
    Solvent t ∧ Evolves s t := by
  have hback : ∀ source' pending, Backed s source' pending → Backed t source' pending := by
    intro source' pending h
    simp only [Backed, Db.creditedTo, Db.deposited, Db.depositRows, hcredited, htxs,
      hescrows] at h ⊢
    exact h
  -- No row changes its terms.
  have hkept : ∀ source' x, s.terms source' = some x → t.terms source' = some x := by
    intro source' x hx
    rw [hterms]
    by_cases hsource : source' = source
    · rw [if_pos hsource]
      exact congrArg some (hold x (hsource ▸ hx)).symm
    · rw [if_neg hsource]
      exact hx
  refine ⟨⟨?_, ?_, ?_, ?_⟩, ⟨?_, ?_⟩⟩
  · rw [hwallets]
    exact hs.locked
  · rw [htxs]
    exact hs.deposits
  · intro source' x hx
    rw [hterms] at hx
    rw [hescrows]
    by_cases hsource : source' = source
    · rw [if_pos hsource, Option.some.injEq] at hx
      rw [← hx, hsource]
      exact ⟨hpos, hescrow⟩
    · rw [if_neg hsource] at hx
      exact hs.terms source' x hx
  · intro source' hfair
    exact hback source' 0 (hs.backed source' fun x hx => hfair x (hkept source' x hx))
  · exact hkept
  · rw [hescrows]
    exact fun _ escrow he => ⟨escrow, he, rfl⟩

/-- Saving a row again under unchanged terms. -/
theorem saveMatch_keeps {m : Match} {s : Db} (hrow : s.terms m.source = some m.terms) :
    Keeps C (matchRepository.save m) s := by
  intro hs
  rcases hs.terms _ _ hrow with ⟨hpos, hescrow⟩
  refine ensures_perform ?_ fun _ => ⟨hs, Evolves.refl s⟩
  exact hs.saveRow (terms_saveMatch s m)
    (fun x hx => Option.some.inj (hx.symm.trans hrow)) hpos hescrow rfl rfl rfl rfl

theorem saveTournament_keeps {t : Tournament} {s : Db} (hrow : s.terms t.source = some t.terms) :
    Keeps C (tournamentRepository.save t) s := by
  intro hs
  rcases hs.terms _ _ hrow with ⟨hpos, hescrow⟩
  refine ensures_perform ?_ fun _ => ⟨hs, Evolves.refl s⟩
  exact hs.saveRow (terms_saveTournament s t)
    (fun x hx => Option.some.inj (hx.symm.trans hrow)) hpos hescrow rfl rfl rfl rfl

theorem terms_of_match {s : Db} {matchId : String} {m : Match}
    (h : s.matchRows.findOne matchId = some m) : s.terms m.source = some m.terms := by
  have hkey : m.matchId = matchId := Table.key_of_findOne h
  simp only [Db.terms, Match.source, hkey, h, Option.map_some]

theorem terms_of_tournament {s : Db} {tournamentId : String} {t : Tournament}
    (h : s.tournaments.findOne tournamentId = some t) : s.terms t.source = some t.terms := by
  have hkey : t.tournamentId = tournamentId := Table.key_of_findOne h
  simp only [Db.terms, Tournament.source, hkey, h, Option.map_some]

/-! ### Combining -/

theorem Keeps.then {p : Service α} {f : α → Service β} {s : Db} (hp : Keeps C p s)
    (hf : ∀ a t, Evolves s t → Keeps C (f a) t) : Keeps C (p.bind f) s := by
  intro hs
  refine ensures_bind (ensures_mono (hp hs) fun r t ht => ?_)
  cases r with
  | error e => exact ht
  | ok a =>
      refine ensures_mono (hf a t ht.2 ht.1) fun r u hu => ?_
      exact ⟨hu.1, ht.2.trans hu.2⟩

theorem Keeps.onError {p : Service α} {h : ServiceError → Service Unit} {s : Db}
    (hp : Keeps C p s) (hh : ∀ e t, Keeps C (h e) t) : Keeps C (p.onError h) s := by
  intro hs
  refine ensures_onError (ensures_mono (hp hs) fun r t ht => ?_)
  cases r with
  | ok a => exact ht
  | error e =>
      refine ensures_mono (hh e t ht.1) fun r u hu => ?_
      cases r with
      | ok _ => exact ⟨hu.1, ht.2.trans hu.2⟩
      | error e' => exact ⟨hu.1, ht.2.trans hu.2⟩

theorem done_keeps (a : α) (s : Db) : Keeps C (Prog.done a : Service α) s :=
  fun hs => ⟨hs, Evolves.refl s⟩

theorem require_keeps (ok : Bool) (e : ServiceError) (s : Db) :
    Keeps C (require ok e : Service Unit) s :=
  fun hs => ensures_require (fun _ => ⟨hs, Evolves.refl s⟩) fun _ => ⟨hs, Evolves.refl s⟩

theorem each_keeps {xs : List β} {f : β → Service Unit} {s : Db}
    (hf : ∀ x ∈ xs, ∀ t, Evolves s t → Keeps C (f x) t) : Keeps C (each xs f) s := by
  intro hs
  refine ensures_each (I := fun t => Solvent t ∧ Evolves s t) ⟨hs, Evolves.refl s⟩ ?_
  intro x hx t ht
  refine ensures_mono (hf x hx t ht.2 ht.1) fun r u hu => ?_
  exact ⟨hu.1, ht.2.trans hu.2⟩

/-- A read keeps everything, and hands on what it found. -/
theorem keeps_read {p : Service α} {f : α → Service β} {s : Db} {R : α → Prop}
    (hp : p.Ensures C s fun r t => t = s ∧ ∀ a, r = .ok a → R a)
    (hf : ∀ a, R a → Keeps C (f a) s) : Keeps C (p.bind f) s := by
  intro hs
  refine ensures_bind (ensures_mono hp fun r t ht => ?_)
  rcases ht with ⟨rfl, hR⟩
  cases r with
  | error e => exact ⟨hs, Evolves.refl t⟩
  | ok a => exact hf a (hR a rfl) hs

/-- A query that changes only tables the invariant does not look at. -/
theorem query_keeps {act : Db → α × Db} (hact : ∀ s, ∃ prizes participants registrations,
      (act s).2 = { s with
        prizes := prizes, participants := participants, registrations := registrations })
    (s : Db) : Keeps C (query act) s := by
  intro hs
  rcases hact s with ⟨prizes, participants, registrations, hact⟩
  refine ensures_perform ?_ fun _ => ⟨hs, Evolves.refl s⟩
  rw [hact]
  exact hs.frame hs.locked rfl rfl rfl rfl rfl

theorem readMatch_keeps {matchId : String} {f : LoadedMatch → Service β} {s : Db}
    (hf : ∀ m, s.terms m.source = some m.terms → Keeps C (f m) s) :
    Keeps C ((getMatchById matchId).bind f) s := by
  refine keeps_read (R := fun m => s.terms m.source = some m.terms)
    (ensures_mono (getMatchById_ensures matchId s) fun r t ht => ⟨ht.1, ?_⟩) hf
  rintro m rfl
  exact terms_of_match ht.2.1

theorem readTournament_keeps {tournamentId : String} {f : LoadedTournament → Service β} {s : Db}
    (hf : ∀ t, s.terms t.source = some t.terms → Keeps C (f t) s) :
    Keeps C ((getTournamentById tournamentId).bind f) s := by
  refine keeps_read (R := fun t => s.terms t.source = some t.terms)
    (ensures_mono (getTournamentById_ensures tournamentId s) fun r t ht => ⟨ht.1, ?_⟩) hf
  rintro t rfl
  exact terms_of_tournament ht.2.1

theorem getWallet_keeps (playerId : String) (s : Db) : Keeps C (getWallet playerId) s := by
  intro hs
  refine ensures_mono (getWallet_ensures playerId s) fun r t ht => ?_
  rw [ht.1]
  exact ⟨hs, Evolves.refl s⟩

theorem getEscrowBySource_keeps (source : SourceId) (s : Db) :
    Keeps C (getEscrowBySource source) s := by
  intro hs
  refine ensures_mono (getEscrowBySource_ensures source s) fun r t ht => ?_
  rw [ht.1]
  exact ⟨hs, Evolves.refl s⟩

theorem compute_keeps (result : Except ServiceError α) (s : Db) :
    Keeps C (compute result : Service α) s :=
  fun hs => ensures_compute ⟨hs, Evolves.refl s⟩

/-- A new escrow, for a source that had none and hence no row. -/
theorem newEscrow_keeps {request : CreateEscrowRequest} {f : EscrowAccount → Service β} {s : Db}
    (hf : ∀ escrow t, Evolves s t → t.terms request.source = none →
      (∃ e, t.escrows.findOne request.source = some e ∧
        e.platformFeePercent = request.platformFeePercent) → Keeps C (f escrow) t) :
    Keeps C ((createEscrow request).bind f) s := by
  intro hs
  refine ensures_bind (ensures_mono
    (ensures_and (createEscrow_keeps request s hs) (createEscrow_ensures request s))
      fun r t ht => ?_)
  cases r with
  | error e => exact ht.1
  | ok escrow =>
      rcases ht with ⟨⟨ht, hev⟩, hnone, -, rfl⟩
      -- A row would have an escrow already.
      have hterms : s.terms request.source = none := by
        cases hx : s.terms request.source with
        | none => rfl
        | some x =>
            rcases (hs.terms _ _ hx).2 with ⟨found, hfound, -⟩
            rw [hnone] at hfound
            exact nomatch hfound
      have hnew : (s.withEscrow (newEscrow request)).escrows.findOne request.source =
          some (newEscrow request) := Table.findOne_save_self _ _
      refine ensures_mono (hf escrow _ hev hterms ⟨_, hnew, rfl⟩ ht) fun r u hu => ?_
      exact ⟨hu.1, hev.trans hu.2⟩

/-! ### The calls -/

theorem createMatch_keeps (request : CreateMatchRequest) (s : Db) :
    Keeps C (createMatch request) s := by
  intro hs
  refine ensures_bind (ensures_require (fun hvalid => ?_) fun _ => ⟨hs, Evolves.refl s⟩)
  have hpos : 0 < (newMatch request).entryFee := entryFee_pos_of_valid hvalid
  refine Keeps.then (compute_keeps _ s) (fun _ t _ => ?_) hs
  refine newEscrow_keeps fun escrow u _ hnone hescrow => ?_
  refine Keeps.then (fun hu => ensures_perform ?_ fun _ => ⟨hu, Evolves.refl u⟩)
    fun _ v _ => done_keeps _ v
  refine hu.saveRow (terms_saveMatch u (newMatch request)) (fun x hx => ?_) hpos hescrow rfl rfl rfl
    rfl
  exact nomatch hnone.symm.trans hx

theorem createTournament_keeps (request : CreateTournamentRequest) (s : Db) :
    Keeps C (createTournament request) s := by
  intro hs
  refine ensures_bind (ensures_require (fun hvalid => ?_) fun _ => ⟨hs, Evolves.refl s⟩)
  have hpos : 0 < (newTournament request).entryFee := entryFee_pos_of_valid hvalid
  refine Keeps.then (require_keeps _ _ s) (fun _ t _ => ?_) hs
  refine newEscrow_keeps fun escrow u _ hnone hescrow => ?_
  refine Keeps.then (fun hu => ensures_perform ?_ fun _ => ⟨hu, Evolves.refl u⟩)
    fun _ v _ => done_keeps _ v
  refine hu.saveRow (terms_saveTournament u (newTournament request)) (fun x hx => ?_) hpos hescrow
    rfl rfl rfl rfl
  exact nomatch hnone.symm.trans hx

theorem enter_keeps {entry : Entry α} {s : Db} (hfee : 0 ≤ entry.entryFee)
    (hregister : ∀ wallet t, Evolves s t → Keeps C (entry.register wallet) t) :
    Keeps C (enter entry) s := by
  refine Keeps.then ?_ fun wallet t ht => Keeps.onError ?_ fun e u => ?_
  · refine Keeps.then (getWallet_keeps _ s) fun wallet t ht => ?_
    exact Keeps.then (lockFunds_keeps hfee t) fun _ u hu => done_keeps _ u
  · refine Keeps.then (getEscrowBySource_keeps _ t) fun escrow v hv => ?_
    refine Keeps.then (depositToEscrow_keeps hfee v) fun _ w hw => ?_
    refine Keeps.then (deductEntryFee_keeps _ _ w) fun _ x hx => ?_
    exact hregister wallet x (ht.trans (hv.trans (hw.trans hx)))
  · exact Keeps.then (unlockFunds_keeps _ u) fun _ v _ => done_keeps _ v

theorem joinMatch_keeps (request : JoinMatchRequest) (s : Db) : Keeps C (joinMatch request) s := by
  intro hs
  refine keeps_read (R := fun m => s.terms m.source = some m.terms)
    (ensures_mono (checkJoin_ensures request s) fun r t ht => ⟨ht.1, fun m hm => ?_⟩)
    (fun m hm => ?_) hs
  · exact terms_of_match (ht.2 m hm).1
  · refine enter_keeps (hs.terms _ _ hm).1.le fun wallet t ht => ?_
    refine Keeps.then (query_keeps (fun s => ⟨s.prizes, _, s.registrations, rfl⟩) t)
      fun _ u hu => ?_
    exact Keeps.then (saveMatch_keeps (m := afterJoin m) ((ht.trans hu).terms _ _ hm))
      fun _ v _ => done_keeps _ v

theorem startMatch_keeps (matchId : String) (now : Int) (s : Db) :
    Keeps C (startMatch matchId now) s := by
  refine readMatch_keeps fun m hm => ?_
  refine Keeps.then (require_keeps _ _ s) fun _ t ht => ?_
  refine Keeps.then (getEscrowBySource_keeps _ t) fun escrow u hu => ?_
  refine Keeps.then (lockEscrow_keeps _ u) fun _ v hv => ?_
  refine Keeps.then (query_keeps (fun s => ⟨s.prizes, _, s.registrations, rfl⟩) v) fun _ w hw => ?_
  have hrow := ((ht.trans hu).trans (hv.trans hw)).terms _ _ hm
  exact Keeps.then (saveMatch_keeps (m := { m.toMatch with status := _, startedAt := _ }) hrow)
    fun _ x _ => done_keeps _ x

theorem matchPayout_honest {m : Match} {participants : List MatchParticipant} {s : Db}
    (hm : s.terms m.source = some m.terms) :
    HonestPayout C (matchPayout m participants) m.terms s where
  row := hm
  nonneg hfair _ _ hamount h :=
    matchPayments_nonneg (fun entry hentry => (hfair.2 entry hentry).1) hamount h
  fee := rfl
  mark := markParticipant_marksRows m.matchId

theorem tournamentPayout_honest {t : Tournament} {registrations : List TournamentRegistration}
    {s : Db} (ht : s.terms t.source = some t.terms) :
    HonestPayout C (tournamentPayout t registrations) t.terms s where
  row := ht
  nonneg hfair _ _ hamount h := tournamentPayments_nonneg hfair.2 hamount h
  fee := rfl
  mark := markRegistration_marksRows t.tournamentId

theorem finishParticipant_keeps (matchId playerId : String) (placement : Nat) (s : Db) :
    Keeps C (finishParticipant matchId playerId placement) s :=
  query_keeps (fun s => ⟨s.prizes, _, s.registrations, rfl⟩) s

theorem submitResult_keeps (request : SubmitResultRequest) (s : Db) :
    Keeps C (submitResult request) s := by
  refine readMatch_keeps fun m hm => ?_
  refine Keeps.then (require_keeps _ _ s) fun _ t ht => ?_
  refine Keeps.then (query_keeps (fun s => ⟨s.prizes, s.participants, s.registrations, rfl⟩) t)
    fun participants u hu => ?_
  refine Keeps.then (compute_keeps _ u) fun _ v hv => ?_
  have hv' := (ht.trans hu).trans hv
  refine Keeps.then (saveMatch_keeps (m := afterResult m.toMatch request) (hv'.terms _ _ hm))
    fun _ w hw => ?_
  refine Keeps.then (each_keeps fun _ _ x _ => finishParticipant_keeps _ _ _ x) fun _ x hx => ?_
  refine Keeps.then (each_keeps fun _ _ y _ => finishParticipant_keeps _ _ _ y) fun _ y hy => ?_
  have hy' := hv'.trans (hw.trans (hx.trans hy))
  -- The payout is honest, since the terms of the match have not changed.
  refine Keeps.then (distribute_keeps (matchPayout_honest (m := afterResult m.toMatch request)
    (hy'.terms _ _ hm))) fun _ z hz => ?_
  exact Keeps.then (saveMatch_keeps (m := { afterResult m.toMatch request with status := _ })
    ((hy'.trans hz).terms _ _ hm)) fun _ z' _ => done_keeps _ z'

theorem cancelMatch_keeps (matchId : String) (now : Int) (s : Db) :
    Keeps C (cancelMatch matchId now) s := by
  refine readMatch_keeps fun m hm => ?_
  refine Keeps.then (require_keeps _ _ s) fun _ t ht => ?_
  refine Keeps.then (getEscrowBySource_keeps _ t) fun escrow u hu => ?_
  -- The refund is taken off the balance before anything is unlocked.
  refine Keeps.then (refundEscrow_keeps _ u) fun _ v hv => ?_
  refine Keeps.then (query_keeps (fun s => ⟨s.prizes, s.participants, s.registrations, rfl⟩) v)
    fun participants w hw => ?_
  refine Keeps.then (each_keeps fun participant _ x _ => ?_) fun _ x hx => ?_
  · refine Keeps.then (unlockFunds_keeps _ x) fun _ y _ => ?_
    exact query_keeps (fun s => ⟨s.prizes, _, s.registrations, rfl⟩) y
  · have hx' := (ht.trans hu).trans (hv.trans (hw.trans hx))
    exact Keeps.then (saveMatch_keeps (m := { m.toMatch with status := _, endedAt := _ })
      (hx'.terms _ _ hm)) fun _ y _ => done_keeps _ y

/-- Opening and closing registration save the row under another status. -/
theorem setStatus_keeps (tournamentId : String) (allowed : LoadedTournament → Bool)
    (refusal : ServiceError) (status : TournamentStatus) (s : Db) :
    Keeps C ((getTournamentById tournamentId).bind fun t =>
      (require (allowed t) refusal).bind fun _ =>
        (tournamentRepository.save { t.toTournament with status := status }).bind fun _ =>
          Prog.done { t.toTournament with status := status }) s := by
  refine readTournament_keeps fun t ht => ?_
  refine Keeps.then (require_keeps _ _ s) fun _ u hu => ?_
  exact Keeps.then (saveTournament_keeps (t := { t.toTournament with status := status })
    (hu.terms _ _ ht)) fun _ v _ => done_keeps _ v

theorem registerPlayer_keeps (request : RegisterPlayerRequest) (s : Db) :
    Keeps C (registerPlayer request) s := by
  intro hs
  refine keeps_read (R := fun t => s.terms t.source = some t.terms)
    (ensures_mono (checkRegistration_ensures request s) fun r u hu => ⟨hu.1, fun t ht => ?_⟩)
    (fun t ht => ?_) hs
  · exact terms_of_tournament (hu.2 t ht).1
  · refine enter_keeps (hs.terms _ _ ht).1.le fun wallet u hu => ?_
    refine Keeps.then (query_keeps (fun s => ⟨s.prizes, s.participants, _, rfl⟩) u)
      fun _ v hv => ?_
    exact Keeps.then (saveTournament_keeps (t := afterRegistration t)
      ((hu.trans hv).terms _ _ ht)) fun _ w _ => done_keeps _ w

theorem generateBracket_keeps (request : GenerateBracketRequest) (s : Db) :
    Keeps C (generateBracket request) s := by
  refine readTournament_keeps fun t ht => ?_
  refine Keeps.then (require_keeps _ _ s) fun _ u hu => ?_
  refine Keeps.then (query_keeps (fun s => ⟨s.prizes, s.participants, s.registrations, rfl⟩) u)
    fun registrations v hv => ?_
  refine Keeps.then (require_keeps _ _ v) fun _ w hw => ?_
  refine Keeps.then (each_keeps fun seeded _ x _ =>
    query_keeps (fun s => ⟨s.prizes, s.participants, _, rfl⟩) x) fun _ x hx => ?_
  have hx' := (hu.trans hv).trans (hw.trans hx)
  refine Keeps.then (saveTournament_keeps (t := { t.toTournament with bracket := _, status := _ })
    (hx'.terms _ _ ht)) fun _ y _ => ?_
  -- Locking the escrow leaves what it holds.
  refine Keeps.then (getEscrowBySource_keeps _ y) fun escrow z _ => ?_
  exact Keeps.then (lockEscrow_keeps _ z) fun _ z' _ => done_keeps _ z'

theorem startTournament_keeps (request : StartTournamentRequest) (s : Db) :
    Keeps C (startTournament request) s := by
  refine readTournament_keeps fun t ht => ?_
  refine Keeps.then (require_keeps _ _ s) fun _ u hu => ?_
  refine Keeps.then (each_keeps fun pairing _ v _ => ?_) fun _ v hv => ?_
  · unfold createPairing
    split
    · exact Keeps.then (createMatch_keeps _ v) fun _ w _ => done_keeps _ w
    · exact done_keeps _ v
  · exact Keeps.then (saveTournament_keeps (t := { t.toTournament with status := _ })
      ((hu.trans hv).terms _ _ ht)) fun _ w _ => done_keeps _ w

theorem advanceRound_keeps (request : AdvanceRoundRequest) (s : Db) :
    Keeps C (advanceRound request) s := by
  refine readTournament_keeps fun t ht => ?_
  refine Keeps.then (require_keeps _ _ s) fun _ u hu => ?_
  refine keeps_read (R := fun _ => True) (ensures_demand (fun _ _ => ⟨rfl, fun _ _ => trivial⟩)
    fun _ => ⟨rfl, fun _ _ => trivial⟩) fun bracket _ => ?_
  unfold settleRound
  -- Either the final is decided, and the prizes are paid first, or the round is
  -- saved.
  split
  · refine Keeps.then ?_ fun _ v hv => ?_
    · refine Keeps.then (query_keeps (fun s => ⟨s.prizes, s.participants, s.registrations, rfl⟩) u)
        fun _ v hv => ?_
      refine Keeps.then (each_keeps fun placement _ w _ =>
        query_keeps (fun s => ⟨s.prizes, s.participants, _, rfl⟩) w) fun _ w hw => ?_
      refine Keeps.then (query_keeps (fun s => ⟨s.prizes, s.participants, s.registrations, rfl⟩) w)
        fun registrations x hx => ?_
      have hrow := (hu.trans (hv.trans (hw.trans hx))).terms _ _ ht
      exact Keeps.then (distribute_keeps (tournamentPayout_honest
        (t := completedTournament t.toTournament _ request.now) hrow)) fun _ y _ => done_keeps _ y
    · exact Keeps.then (saveTournament_keeps (t := completedTournament t.toTournament _ request.now)
        ((hu.trans hv).terms _ _ ht)) fun _ w _ => done_keeps _ w
  · exact Keeps.then (saveTournament_keeps (t := advancedTournament t.toTournament _)
      (hu.terms _ _ ht)) fun _ v _ => done_keeps _ v

theorem cancelTournament_keeps (tournamentId : String) (now : Int) (s : Db) :
    Keeps C (cancelTournament tournamentId now) s := by
  refine readTournament_keeps fun t ht => ?_
  refine Keeps.then (require_keeps _ _ s) fun _ u hu => ?_
  refine Keeps.then (getEscrowBySource_keeps _ u) fun escrow v hv => ?_
  -- The refund is taken off the balance before anything is unlocked.
  refine Keeps.then (refundEscrow_keeps _ v) fun _ w hw => ?_
  refine Keeps.then (query_keeps (fun s => ⟨s.prizes, s.participants, s.registrations, rfl⟩) w)
    fun registrations x hx => ?_
  refine Keeps.then (each_keeps fun registration _ y _ => ?_) fun _ y hy => ?_
  · refine Keeps.then (unlockFunds_keeps _ y) fun _ z _ => ?_
    exact query_keeps (fun s => ⟨s.prizes, s.participants, _, rfl⟩) z
  · have hy' := (hu.trans hv).trans (hw.trans (hx.trans hy))
    exact Keeps.then (saveTournament_keeps (t := { t.toTournament with status := _, endDate := _ })
      (hy'.terms _ _ ht)) fun _ z _ => done_keeps _ z

theorem discard_keeps {p : Service α} {s : Db} (h : Keeps C p s) : Keeps C (discard p) s :=
  Keeps.then h fun _ t _ => done_keeps _ t

/-- Every call of the platform keeps the invariant under every refusal. -/
theorem call_keeps (call : Call) (haccepted : call.Accepted) (s : Db) :
    Keeps C call.program s := by
  -- One lemma for each call of the services.
  cases call with
  | createWallet request => exact discard_keeps (createWallet_keeps request s)
  | deposit request => exact discard_keeps (deposit_keeps request s)
  | withdraw request => exact discard_keeps (withdraw_keeps request s)
  | createMatch request => exact discard_keeps (createMatch_keeps request s)
  | joinMatch request => exact discard_keeps (joinMatch_keeps request s)
  | startMatch matchId now => exact discard_keeps (startMatch_keeps matchId now s)
  | submitResult request => exact discard_keeps (submitResult_keeps request s)
  | cancelMatch matchId now => exact discard_keeps (cancelMatch_keeps matchId now s)
  | createTournament request => exact discard_keeps (createTournament_keeps request s)
  | openRegistration tournamentId => exact discard_keeps (setStatus_keeps _ _ _ _ s)
  | registerPlayer request => exact discard_keeps (registerPlayer_keeps request s)
  | closeRegistration tournamentId => exact discard_keeps (setStatus_keeps _ _ _ _ s)
  | generateBracket request => exact discard_keeps (generateBracket_keeps request s)
  | startTournament request => exact discard_keeps (startTournament_keeps request s)
  | advanceRound request => exact discard_keeps (advanceRound_keeps request s)
  | cancelTournament tournamentId now =>
      exact discard_keeps (cancelTournament_keeps tournamentId now s)
  | createEscrow request => exact discard_keeps (createEscrow_keeps request s)
  | depositToEscrow request => exact discard_keeps (depositToEscrow_keeps haccepted s)
  | lockEscrow escrowId => exact discard_keeps (lockEscrow_keeps escrowId s)
  | releaseEscrow request => exact discard_keeps (releaseEscrow_keeps haccepted s)
  | refundEscrow request => exact discard_keeps (refundEscrow_keeps request s)
  | closeEscrow escrowId => exact discard_keeps (closeEscrow_keeps escrowId s)
  | lockFunds request => exact discard_keeps (lockFunds_keeps haccepted s)
  | unlockFunds request => exact discard_keeps (unlockFunds_keeps request s)
  | deductEntryFee playerId amount => exact discard_keeps (deductEntryFee_keeps playerId amount s)

end Methods

/-! ### Runs -/

theorem solvent_empty : Solvent Db.empty := by
  refine ⟨?_, ?_, ?_, ?_⟩
  · exact fun wallet hw => absurd hw List.not_mem_nil
  · exact fun tx htx => absurd htx List.not_mem_nil
  · rintro ⟨sourceType, hex⟩ x hx
    cases sourceType with
    | MATCH => exact nomatch hx
    | TOURNAMENT => exact nomatch hx
  · exact fun source _ => rfl

/-- Every store a run can reach is solvent, and terms last. -/
theorem solvent_after {run : Run} (haccepted : run.Accepted) {s : Db} (hs : Solvent s) :
    Solvent (s.after run) ∧ Evolves s (s.after run) := by
  refine after_invariant (C := True) (P := Call.Accepted)
    (I := fun t => Solvent t ∧ Evolves s t) (fun call t hc ht => ?_) ⟨hs, Evolves.refl s⟩
    haccepted fun h => absurd trivial h
  refine ensures_mono (call_keeps call hc t ht.1) fun r u hu => ?_
  exact ⟨hu.1, ht.2.trans hu.2⟩

/-- Whatever is refused in a run, the prize credits of a match or tournament
    with fair terms stay within the deposits of its escrow. -/
theorem credited_le_deposited (run : Run) (haccepted : run.Accepted) (source : SourceId)
    (terms : Terms) (hrow : (Db.empty.after run).terms source = some terms)
    (hfair : terms.Fair) :
    (Db.empty.after run).creditedTo source ≤ (Db.empty.after run).deposited source := by
  have hs := (solvent_after haccepted solvent_empty).1
  rcases (hs.terms source terms hrow).2 with ⟨escrow, hfind, hfee⟩
  have hbacked := hs.backed source fun x hx => Option.some.inj (hrow.symm.trans hx) ▸ hfair
  unfold Backed at hbacked
  rw [hfind] at hbacked
  have hbounds := hbacked (hfee ▸ hfair.1)
  omega

theorem credited_le_deposited_settledMatch :
    (Db.empty.after settledMatch).creditedTo (matchSource "m") = 2850000 ∧
      (Db.empty.after settledMatch).creditedTo (matchSource "m") ≤
        (Db.empty.after settledMatch).deposited (matchSource "m") := by
  refine ⟨by decide +kernel, ?_⟩
  refine credited_le_deposited settledMatch (by decide +kernel) (matchSource "m")
    ⟨1000000, 5, (prizeStrategyConfig .WINNER_TAKES_ALL).structure_⟩ (by decide +kernel)
    ⟨⟨?_, ?_⟩, ?_⟩
  · norm_num
  · norm_num
  · exact prizeStrategyConfig_fair .WINNER_TAKES_ALL

end Esports

end SvmCourse
