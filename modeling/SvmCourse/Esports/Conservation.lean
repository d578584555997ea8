import Mathlib.Algebra.Order.BigOperators.Group.List
import SvmCourse.Esports.Calm

/-!
# Conservation of Money

The money of the platform is what the wallets hold, available and locked, and
what the escrows hold, as balance or as collected fee. The law of conservation
says that it is what players deposited less what they withdrew.

The law holds of every effect but one. A refund takes its amount out of the
escrow, books it under `totalRefunded`, and no wallet receives it. So with the
refunded totals on the side of what is held the law is an identity of every
calm run, and the law itself holds exactly in the runs that refund nothing:
a refund pays back at least one deposit, deposits are positive, and refunded
totals never go down.

## Main definitions

* `Db.held`, `Conserved`: The money held, and the law.
* `Db.refundedTotal`: What escrows have refunded.
* `Run.RefundsNothing`: No call of the run is a cancellation that refunds.

## Theorems

* `effect_balanced`: What an effect keeps.
* `conserved_iff`: The runs in which money is conserved.
-/

namespace SvmCourse

namespace Esports

open Core Core.Prog

/-- What an escrow holds: its balance and the fee taken out of it. -/
def EscrowAccount.held (escrow : EscrowAccount) : Int :=
  escrow.currentBalance + escrow.platformFeeCollected

/-- All money in wallets and escrows. -/
def Db.held (db : Db) : Int :=
  db.wallets.sum PlayerWallet.getTotalBalance + db.escrows.sum EscrowAccount.held

/-- Everything players brought in and did not take out is held somewhere. -/
def Conserved (db : Db) : Prop := db.held = netDeposits db.walletTxs

instance (db : Db) : Decidable (Conserved db) :=
  inferInstanceAs (Decidable (db.held = netDeposits db.walletTxs))

/-- What was refunded, by the books of the escrows. -/
def Db.refundedTotal (db : Db) : Int := db.escrows.sum EscrowAccount.totalRefunded

/-- The law with the refunded totals counted as held. -/
def Balanced (db : Db) : Prop := db.held + db.refundedTotal = netDeposits db.walletTxs

section Effects

variable {R : Prop} {s t : Db}

/-- An escrow row that is saved again changes both sums by what it itself
    changes. -/
theorem balanced_saveEscrow {escrow escrow' : EscrowAccount}
    (hfind : s.escrows.findOne escrow'.escrowId = some escrow) (hs : Balanced s)
    (hescrows : t.escrows = s.escrows.save escrow') {d : Int}
    (hwallets : t.wallets.sum PlayerWallet.getTotalBalance =
      s.wallets.sum PlayerWallet.getTotalBalance - d)
    (hsame : escrow'.held + escrow'.totalRefunded =
      escrow.held + escrow.totalRefunded + d)
    (hnet : netDeposits t.walletTxs = netDeposits s.walletTxs) : Balanced t := by
  unfold Balanced Db.held Db.refundedTotal at hs ⊢
  rw [hescrows, hwallets, hnet, Table.sum_save hfind, Table.sum_save hfind]
  omega

theorem balanced_newEscrow {request : CreateEscrowRequest}
    (hnew : s.escrows.findOne request.source = none) (hs : Balanced s)
    (hescrows : t.escrows = s.escrows.save (newEscrow request)) (hwallets : t.wallets = s.wallets)
    (htxs : t.walletTxs = s.walletTxs) : Balanced t := by
  have hnew' : s.escrows.findOne (newEscrow request).escrowId = none := hnew
  have hheld : (newEscrow request).held = 0 := rfl
  have hrefunded : (newEscrow request).totalRefunded = 0 := rfl
  unfold Balanced Db.held Db.refundedTotal at hs ⊢
  rw [hescrows, hwallets, htxs, Table.sum_save_new hnew', Table.sum_save_new hnew', hheld,
    hrefunded]
  omega

theorem EntryPaid.find_key {α : Type} {entry : Entry α} {wallet : PlayerWallet}
    {escrow : EscrowAccount} (h : EntryPaid s entry wallet escrow) :
    s.escrows.findOne escrow.escrowId = some escrow := by
  have hkey : escrow.escrowId = entry.source := Table.key_of_findOne h.findEscrow
  rw [hkey]
  exact h.findEscrow

/-- The fee an entry takes from the wallet is in the escrow. -/
theorem balanced_entry {α : Type} {entry : Entry α} {wallet : PlayerWallet}
    {escrow : EscrowAccount} (hpaid : EntryPaid s entry wallet escrow) (hs : Balanced s) :
    Balanced (s.afterEntry entry wallet escrow) := by
  have hfind : s.escrows.findOne (escrow.afterDeposit entry.entryFee).escrowId = some escrow :=
    hpaid.find_key
  refine balanced_saveEscrow hfind hs rfl hpaid.shifted.total ?_ ?_
  · simp only [EscrowAccount.held, EscrowAccount.afterDeposit]
    omega
  · exact (netDeposits_append _ _).trans (Int.add_zero _)

theorem effect_balanced (h : Effect R s t) (hs : Balanced s) : Balanced t := by
  cases h with
  | funds h =>
      rcases h with ⟨wallets, txs, delta, hshift, hnet, rfl⟩
      have htotal := hshift.total
      unfold Balanced Db.held Db.refundedTotal at hs ⊢
      simp only
      omega
  | newWallet wallet hnew hid havailable hlocked =>
      have hzero : wallet.getTotalBalance = 0 := by
        unfold PlayerWallet.getTotalBalance
        omega
      unfold Balanced Db.held Db.refundedTotal at hs ⊢
      simp only [Db.withWallet]
      rw [Table.sum_save_new hnew, hzero]
      omega
  | newMatch m request hsource hnew hfee => exact balanced_newEscrow hnew hs rfl rfl rfl
  | newTournament x request hsource hnew hfee hstatus =>
      exact balanced_newEscrow hnew hs rfl rfl rfl
  | join entry wallet escrow p hpaid hfee hsource hplayer hstatus hrow =>
      exact balanced_entry hpaid hs
  | register entry wallet escrow r hpaid hfee hsource hplayer hstatus hrow =>
      exact balanced_entry hpaid hs
  | matchRow m m' hfind hfee hover => exact hs
  | tournamentRow x x' hfind hfee hseeded => exact hs
  | participants ps hkeys hstatus => exact hs
  | registrations rs hrows => exact hs
  | escrowStatus escrow status hfind =>
      have hfind' : s.escrows.findOne { escrow with status := status }.escrowId = some escrow :=
        hfind
      exact balanced_saveEscrow hfind' hs rfl (Int.sub_zero _).symm (Int.add_zero _).symm rfl
  | prizes ps => exact hs
  | payout escrow total fee txs wallets walletTxs credited hfind htxs hwallets hnet =>
      -- What the wallets are credited with is gone from the escrow.
      refine balanced_saveEscrow (show s.escrows.findOne
        (escrow.afterRelease total fee).escrowId = some escrow from hfind) hs rfl (d := -total)
        ?_ ?_ hnet
      · rw [hwallets.total, Int.sub_neg]
      · simp only [EscrowAccount.held, EscrowAccount.afterRelease]
        omega
  | refund source hR h =>
      -- No wallet is credited, but the escrow counts what it has paid back.
      rcases h with ⟨escrow, txs, hfind, hrows, htxs, rfl⟩
      have hkey : escrow.escrowId = source := Table.key_of_findOne hfind
      have hfind' : s.escrows.findOne (escrow.afterRefund
          ((s.depositRows source).map EscrowTransaction.amount).sum).escrowId = some escrow :=
        hkey ▸ hfind
      refine balanced_saveEscrow hfind' hs rfl (Int.sub_zero _).symm ?_ rfl
      simp only [EscrowAccount.held, EscrowAccount.afterRefund]
      omega

/-- A refund pays back something. -/
theorem refundedTotal_lt {source : SourceId} (hs : Ledger s) (h : Refunded s t source) :
    s.refundedTotal < t.refundedTotal := by
  rcases h with ⟨escrow, txs, hfind, hrows, htxs, rfl⟩
  have hkey : escrow.escrowId = source := Table.key_of_findOne hfind
  -- There is a deposit, and every deposit is positive.
  have hpos : 0 < ((s.depositRows source).map EscrowTransaction.amount).sum := by
    refine List.sum_pos _ (fun a ha => ?_) fun hnil => hrows (List.map_eq_nil_iff.mp hnil)
    rcases List.mem_map.mp ha with ⟨tx, htx, rfl⟩
    simp only [Db.depositRows, List.mem_filter, Bool.and_eq_true, decide_eq_true_eq] at htx
    exact (hs.deposits tx htx.1 htx.2.2).1
  unfold Db.refundedTotal
  change _ < (s.escrows.save _).sum EscrowAccount.totalRefunded
  rw [Table.sum_save (hkey ▸ hfind)]
  simp only [EscrowAccount.afterRefund]
  omega

theorem refundedTotal_saveEscrow {escrow escrow' : EscrowAccount}
    (hfind : s.escrows.findOne escrow'.escrowId = some escrow)
    (hescrows : t.escrows = s.escrows.save escrow')
    (hsame : escrow'.totalRefunded = escrow.totalRefunded) :
    t.refundedTotal = s.refundedTotal := by
  unfold Db.refundedTotal
  rw [hescrows, Table.sum_save hfind, hsame]
  omega

theorem refundedTotal_newEscrow {request : CreateEscrowRequest}
    (hnew : s.escrows.findOne request.source = none)
    (hescrows : t.escrows = s.escrows.save (newEscrow request)) :
    t.refundedTotal = s.refundedTotal := by
  have hnew' : s.escrows.findOne (newEscrow request).escrowId = none := hnew
  unfold Db.refundedTotal
  rw [hescrows, Table.sum_save_new hnew']
  exact Int.add_zero _

theorem refundedTotal_entry {α : Type} {entry : Entry α} {wallet : PlayerWallet}
    {escrow : EscrowAccount} (hpaid : EntryPaid s entry wallet escrow)
    (hescrows : t.escrows = s.escrows.save (escrow.afterDeposit entry.entryFee)) :
    t.refundedTotal = s.refundedTotal := by
  have hfind : s.escrows.findOne (escrow.afterDeposit entry.entryFee).escrowId = some escrow :=
    hpaid.find_key
  exact refundedTotal_saveEscrow hfind hescrows rfl

/-- Only a refund changes the refunded totals. -/
theorem effect_refundedTotal (h : Effect R s t) (hs : Ledger s) :
    t.refundedTotal = s.refundedTotal ∨ R ∧ s.refundedTotal < t.refundedTotal := by
  -- No other effect writes the refunded total of an escrow.
  cases h with
  | funds h =>
      rcases h with ⟨wallets, txs, d, -, -, rfl⟩
      exact Or.inl rfl
  | newWallet wallet hnew hid havailable hlocked => exact Or.inl rfl
  | newMatch m request hsource hnew hfee => exact Or.inl (refundedTotal_newEscrow hnew rfl)
  | newTournament x request hsource hnew hfee hstatus =>
      exact Or.inl (refundedTotal_newEscrow hnew rfl)
  | join entry wallet escrow p hpaid hfee hsource hplayer hstatus hrow =>
      exact Or.inl (refundedTotal_entry hpaid rfl)
  | register entry wallet escrow r hpaid hfee hsource hplayer hstatus hrow =>
      exact Or.inl (refundedTotal_entry hpaid rfl)
  | matchRow m m' hfind hfee hover => exact Or.inl rfl
  | tournamentRow x x' hfind hfee hseeded => exact Or.inl rfl
  | participants ps hkeys hstatus => exact Or.inl rfl
  | registrations rs hrows => exact Or.inl rfl
  | escrowStatus escrow status hfind =>
      have hfind' : s.escrows.findOne { escrow with status := status }.escrowId = some escrow :=
        hfind
      exact Or.inl (refundedTotal_saveEscrow hfind' rfl rfl)
  | prizes ps => exact Or.inl rfl
  | payout escrow total fee txs wallets walletTxs credited hfind htxs hwallets hnet =>
      exact Or.inl (refundedTotal_saveEscrow (show s.escrows.findOne
        (escrow.afterRelease total fee).escrowId = some escrow from hfind) rfl rfl)
  | refund source hR h => exact Or.inr ⟨hR, refundedTotal_lt hs h⟩

theorem effects_balanced (h : Effects R s t) (hs : Balanced s) : Balanced t := by
  induction h with
  | refl => exact hs
  | tail _ hlast ih => exact effect_balanced hlast ih

theorem effects_refundedTotal (h : Effects R s t) (hs : Ledger s) :
    t.refundedTotal = s.refundedTotal ∨ R ∧ s.refundedTotal < t.refundedTotal := by
  induction h with
  | refl => exact Or.inl rfl
  | tail hchain hlast ih =>
      rcases effect_refundedTotal hlast (effects_ledger hchain hs) with heq | ⟨hR, hlt⟩
      · rw [heq]
        exact ih
      · refine Or.inr ⟨hR, ?_⟩
        rcases ih with heq | ⟨-, hlt'⟩ <;> omega

end Effects

/-! ### Runs -/

/-- No call of the run is a cancellation that refunds an escrow. -/
def Run.RefundsNothing : Run → Db → Prop
  | [], _ => True
  | call :: run, s => ¬call.1.refunds s ∧ RefundsNothing run (s.after [call])

/-- A call of a calm run, in a state with the invariant. -/
structure CalmCall (call : Call × (Nat → Bool)) : Prop where
  accepted : call.1.Accepted
  public_ : call.1.isPublic = true
  calm : call.2 = calm

theorem calmCall_effects {call : Call × (Nat → Bool)} (hcall : CalmCall call) {s : Db}
    (hs : Ledger s) : Effects (call.1.refunds s) s (s.after [call]) :=
  ensures_run (call_makes hs hcall.accepted hcall.public_) call.2 (Or.inl hcall.calm)

/-- A call that refunds does so. -/
theorem refunds_lt {call : Call × (Nat → Bool)} (hcall : CalmCall call) {s : Db} (hs : Ledger s)
    (hrefunds : call.1.refunds s) : s.refundedTotal < (s.after [call]).refundedTotal := by
  rcases call with ⟨call, pattern⟩
  cases call with
  | cancelMatch matchId now =>
      -- The two cancellations refund when their escrow can be refunded.
      have hends := ensures_run (discard_ensures (I := fun t => s.refundedTotal < t.refundedTotal)
        (ensures_mono (cancelMatch_calm hs matchId now) fun r t ht => ?_)) pattern
          (Or.inl hcall.calm)
      · exact hends
      · rcases ht.2 with ⟨-, hno⟩ | ⟨-, hrefunded⟩
        · exact absurd hrefunds hno
        · exact refundedTotal_lt hs hrefunded
  | cancelTournament tournamentId now =>
      have hends := ensures_run (discard_ensures (I := fun t => s.refundedTotal < t.refundedTotal)
        (ensures_mono (cancelTournament_calm hs tournamentId now) fun r t ht => ?_)) pattern
          (Or.inl hcall.calm)
      · exact hends
      · rcases ht.2 with ⟨-, hno⟩ | ⟨-, hrefunded⟩
        · exact absurd hrefunds hno
        · exact refundedTotal_lt hs hrefunded
  | _ => exact hrefunds.elim

/-- Refunded totals stay at what they were exactly in the runs that refund
    nothing, and grow in the others. -/
theorem refundedTotal_after {run : Run} (hrun : CalmRun run) {s : Db} (hs : Ledger s) :
    s.refundedTotal ≤ (s.after run).refundedTotal ∧
      ((s.after run).refundedTotal = s.refundedTotal ↔ run.RefundsNothing s) := by
  induction run generalizing s with
  | nil => exact ⟨le_refl _, ⟨fun _ => trivial, fun _ => rfl⟩⟩
  | cons call run ih =>
      have hcall : CalmCall call := ⟨hrun.accepted call (List.mem_cons_self ..),
        hrun.public_ call (List.mem_cons_self ..), hrun.calm call (List.mem_cons_self ..)⟩
      have hrest : CalmRun run := ⟨fun c hc => hrun.accepted c (List.mem_cons_of_mem _ hc),
        fun c hc => hrun.public_ c (List.mem_cons_of_mem _ hc),
        fun c hc => hrun.calm c (List.mem_cons_of_mem _ hc)⟩
      have heffects := calmCall_effects hcall hs
      have hafter : s.after (call :: run) = (s.after [call]).after run :=
        Db.after_append s [call] run
      rcases ih hrest (effects_ledger heffects hs) with ⟨hle, hiff⟩
      -- No step makes the total smaller, so it stays only if every step keeps it.
      have hstep := effects_refundedTotal heffects hs
      rw [hafter]
      refine ⟨?_, ?_⟩
      · rcases hstep with heq | ⟨-, hlt⟩ <;> omega
      · unfold Run.RefundsNothing
        rw [← hiff]
        constructor
        · intro heq
          refine ⟨fun hrefunds => ?_, ?_⟩
          · have hlt := refunds_lt hcall hs hrefunds
            omega
          · rcases hstep with hsame | ⟨-, hlt⟩ <;> omega
        · rintro ⟨hno, heq⟩
          rcases hstep with hsame | ⟨hyes, -⟩
          · exact heq.trans hsame
          · exact absurd hyes hno

theorem balanced_after {run : Run} (hrun : CalmRun run) : Balanced (Db.empty.after run) := by
  have hboth : Ledger (Db.empty.after run) ∧ Balanced (Db.empty.after run) := by
    refine after_invariant (C := False) (P := fun call => call.Accepted ∧ call.isPublic = true)
      (I := fun s => Ledger s ∧ Balanced s) (fun call s hcall hs => ?_) ⟨ledger_empty, rfl⟩
      (fun call hmem => ⟨hrun.accepted call hmem, hrun.public_ call hmem⟩) fun _ => hrun.calm
    exact ensures_mono (call_makes hs.1 hcall.1 hcall.2) fun _ _ ht =>
      ⟨effects_ledger ht hs.1, effects_balanced ht hs.2⟩
  exact hboth.2

/-- Money is conserved by a calm run exactly when the run refunds nothing. -/
theorem conserved_iff (run : Run) (hrun : CalmRun run) :
    Conserved (Db.empty.after run) ↔ run.RefundsNothing Db.empty := by
  have hbalanced := balanced_after hrun
  have hrefunded := (refundedTotal_after hrun ledger_empty).2
  have hzero : Db.empty.refundedTotal = 0 := rfl
  unfold Balanced at hbalanced
  unfold Conserved
  rw [← hrefunded]
  omega

/-- The entry fee of a cancelled match is in no wallet and in no escrow. -/
theorem not_conserved_cancelledMatch :
    ¬Conserved (Db.empty.after (joinedMatch ++ Run.calmly [.cancelMatch "m" 0])) := by
  decide +kernel

/-- A match that is played to its end conserves money. -/
theorem conserved_settledMatch : Conserved (Db.empty.after settledMatch) := by
  refine (conserved_iff settledMatch (calmRun_calmly (by decide) (by decide))).mpr ?_
  exact ⟨id, id, id, id, id, id, id, id, id, id, id, id, trivial⟩

end Esports

end SvmCourse
