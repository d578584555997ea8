import SvmCourse.Esports.System

/-!
# The Wallet Service by Itself

Runs of the wallet operations alone, with any amounts, including the prize
credits that only payouts make elsewhere.

The amount of a deposit or withdrawal is whatever the player sends, and the
checks compare it with the balance without asking for its sign. So the
balances stay non-negative only as long as no player sends a negative deposit
that is booked or a withdrawal of nothing or less that goes through.
`AmountFits` is that condition on the call and the store it finds, and
`Sound` is what it buys for the one step.

The sums of the log need no such condition. Each operation that goes through
appends at most one row, and books its amount in the aggregates of the wallet
the row belongs to, whatever its sign. What `deductEntryFee` takes leaves no
row and is counted along the run.

## Main definitions

* `WalletCall`: A call of the wallet service.
* `NonNegative`, `TotalsGrow`, `Sound`: Balances and totals in one step.
* `WalletCall.AmountFits`: The amounts that keep them.
* `rowSum`, `completedSum`: Sums of the log of a wallet.
* `Reconciled`: A wallet agrees with its log.
* `Audited`: All wallets do, and the log is well formed.
* `WalletCall.deducts`, `deductedAlong`: What leaves the locked balance without
  a row.
* `Settles`: The row of a withdrawal and the balance.

## Theorems

* `fits_sound`, `sound_fits`: One step.
* `sound_iff_fits`: Runs keep balances and totals when the amounts fit.
* `audited_step`: One call keeps the sums.
* `wallets_reconcile`: So does every run.
-/

namespace SvmCourse

namespace Esports

open Core Core.Prog

/-- The calls of the wallet service. -/
inductive WalletCall where
  | createWallet (request : CreatePlayerWalletRequest)
  | deposit (request : DepositRequest)
  | withdraw (request : WithdrawRequest)
  | lockFunds (request : LockFundsRequest)
  | unlockFunds (request : LockFundsRequest)
  | creditPrize (playerId : String) (amount : Int) (reference : SourceId)
  | deductEntryFee (playerId : String) (amount : Int)

namespace WalletCall

/-- What a call does, access by access. -/
def program : WalletCall → Service Unit
  | createWallet request => discard (Esports.createWallet request)
  | deposit request => discard (Esports.deposit request)
  | withdraw request => discard (Esports.withdraw request)
  | lockFunds request => discard (Esports.lockFunds request)
  | unlockFunds request => discard (Esports.unlockFunds request)
  | creditPrize playerId amount reference =>
    discard (Esports.creditPrize playerId amount reference)
  | deductEntryFee playerId amount => discard (Esports.deductEntryFee playerId amount)

/-- Entry fees and prizes are positive. -/
def FeesPositive : WalletCall → Prop
  | lockFunds request | unlockFunds request => 0 < request.amount
  | creditPrize _ amount _ | deductEntryFee _ amount => 0 < amount
  | createWallet _ | deposit _ | withdraw _ => True

/-- A deposit that would be booked is not negative, and a withdrawal that would
    go through is positive. -/
def AmountFits (s : Db) : WalletCall → Prop
  | deposit request => ∀ wallet, s.wallets.findOne request.playerId = some wallet →
      wallet.isActive = true → 0 ≤ request.amount
  | withdraw request => ∀ wallet, s.wallets.findOne request.playerId = some wallet →
      request.passes wallet = true → request.signTransaction.toBool = true → 0 < request.amount
  | createWallet _ | lockFunds _ | unlockFunds _ | creditPrize _ _ _ | deductEntryFee _ _ => True

instance (s : Db) : (call : WalletCall) → Decidable (call.AmountFits s)
  | deposit request => decidable_of_iff
      (∀ wallet ∈ (s.wallets.findOne request.playerId).toList, wallet.isActive = true →
        0 ≤ request.amount)
      (by simp only [Option.mem_toList]; rfl)
  | withdraw request => decidable_of_iff
      (∀ wallet ∈ (s.wallets.findOne request.playerId).toList, request.passes wallet = true →
        request.signTransaction.toBool = true → 0 < request.amount)
      (by simp only [Option.mem_toList]; rfl)
  | createWallet _ | lockFunds _ | unlockFunds _ | creditPrize _ _ _ | deductEntryFee _ _ =>
    isTrue trivial

end WalletCall

theorem discard_toBool {C : Prop} {α : Type} {p : Service α} {s : Db} {R : Bool → Db → Prop}
    (h : p.Ensures C s fun r t => R r.toBool t) :
    (discard p).Ensures C s fun r t => R r.toBool t := by
  refine ensures_bind (ensures_mono h fun r t ht => ?_)
  cases r with
  | ok a => exact ht
  | error e => exact ht

/-! ### Balances and totals -/

/-- No wallet has a negative balance. -/
def NonNegative (s : Db) : Prop :=
  ∀ wallet ∈ s.wallets.rows, 0 ≤ wallet.availableBalance ∧ 0 ≤ wallet.lockedBalance

/-- No wallet is lost, and what was ever deposited or withdrawn only grows. -/
def TotalsGrow (s t : Db) : Prop :=
  ∀ playerId wallet, s.wallets.findOne playerId = some wallet →
    ∃ wallet', t.wallets.findOne playerId = some wallet' ∧
      wallet.totalDeposited ≤ wallet'.totalDeposited ∧
      wallet.totalWithdrawn ≤ wallet'.totalWithdrawn

/-- What one step has to keep. -/
structure Sound (call : WalletCall) (s : Db) (ok : Bool) (t : Db) : Prop where
  nonNegative : NonNegative t
  totals : TotalsGrow s t
  decreases : ∀ request, call = .withdraw request → ok = true →
    ∃ wallet wallet', s.wallets.findOne request.playerId = some wallet ∧
      t.wallets.findOne request.playerId = some wallet' ∧
      wallet'.availableBalance < wallet.availableBalance

section Balances

variable {C : Prop} {s t : Db} {call : WalletCall} {wallet wallet' : PlayerWallet}

theorem totalsGrow_of_wallets (h : t.wallets = s.wallets) : TotalsGrow s t := by
  intro playerId wallet hfind
  exact ⟨wallet, h ▸ hfind, le_refl _, le_refl _⟩

/-- One wallet is saved, with balances and totals that keep the bounds. -/
theorem bounds_save (ht : t.wallets = s.wallets.save wallet') (hs : NonNegative s)
    (hold : ∀ wallet, s.wallets.findOne wallet'.playerId = some wallet →
      wallet.totalDeposited ≤ wallet'.totalDeposited ∧
        wallet.totalWithdrawn ≤ wallet'.totalWithdrawn)
    (havailable : 0 ≤ wallet'.availableBalance) (hlocked : 0 ≤ wallet'.lockedBalance) :
    NonNegative t ∧ TotalsGrow s t := by
  unfold NonNegative TotalsGrow
  rw [ht]
  constructor
  · intro w hw
    rcases Table.mem_save.mp hw with rfl | ⟨hmem, -⟩
    · exact ⟨havailable, hlocked⟩
    · exact hs w hmem
  · intro playerId wallet hfind
    -- The totals of the saved wallet grow, and those of the others stay.
    by_cases hkey : playerId = wallet'.playerId
    · subst hkey
      exact ⟨wallet', Table.findOne_save_self _ _, hold wallet hfind⟩
    · exact ⟨wallet, (Table.findOne_save_of_ne hkey).trans hfind, le_refl _, le_refl _⟩

/-- A step of a call that is no withdrawal. -/
theorem sound_of_bounds {ok : Bool} (h : NonNegative t ∧ TotalsGrow s t)
    (hcall : ∀ request, call = .withdraw request → ok = false) : Sound call s ok t := by
  refine ⟨h.1, h.2, fun request heq hok => ?_⟩
  rw [hcall request heq] at hok
  exact absurd hok Bool.false_ne_true

/-- A recorded operation keeps the bounds when the wallet it writes does. -/
theorem moveFunds_bounds {playerId : String} {allowed : PlayerWallet → Bool}
    {refusal : ServiceError} {record : PlayerWallet → WalletTransaction}
    {write : PlayerWallet → Db → Db} {change : PlayerWallet → PlayerWallet} (hs : NonNegative s)
    (hwrite : ∀ wallet db, (write wallet db).wallets = db.wallets.save (change wallet))
    (hchange : ∀ wallet, s.wallets.findOne playerId = some wallet → allowed wallet = true →
      (change wallet).playerId = wallet.playerId ∧
      0 ≤ (change wallet).availableBalance ∧ 0 ≤ (change wallet).lockedBalance ∧
      wallet.totalDeposited ≤ (change wallet).totalDeposited ∧
      wallet.totalWithdrawn ≤ (change wallet).totalWithdrawn) :
    (moveFunds playerId allowed refusal record write).Ensures C s fun _ t =>
      NonNegative t ∧ TotalsGrow s t := by
  refine ensures_mono (moveFunds_ensures ..) fun r t ht => ?_
  cases r with
  | error e =>
      -- What fails has at most appended a row.
      rcases ht.1 with rfl | ⟨-, wallet, rfl⟩
      · exact ⟨hs, totalsGrow_of_wallets rfl⟩
      · exact ⟨hs, totalsGrow_of_wallets rfl⟩
  | ok tx =>
      rcases ht with ⟨wallet, hfind, hok, -, rfl⟩
      rcases hchange wallet hfind hok with ⟨hkey, havailable, hlocked, hdeposited, hwithdrawn⟩
      refine bounds_save (hwrite wallet _) hs (fun w hw => ?_) havailable hlocked
      rw [hkey, Table.key_of_findOne hfind] at hw
      obtain rfl : w = wallet := Option.some.inj (hw.symm.trans hfind)
      exact ⟨hdeposited, hwithdrawn⟩

/-- A withdrawal that is refused leaves the balances and totals: at most the daily
    amount is reset, and a row is appended. -/
theorem bounds_refused {request : WithdrawRequest} {wallet : PlayerWallet} {u : Db}
    (hs : NonNegative s) (hfind : s.wallets.findOne request.playerId = some wallet)
    (hu : u = s ∨ u = s.withWallet (wallet.current request.now))
    (hwallets : t.wallets = u.wallets) :
    NonNegative t ∧ TotalsGrow s t := by
  rcases hu with rfl | rfl
  · refine ⟨?_, totalsGrow_of_wallets hwallets⟩
    unfold NonNegative
    rw [hwallets]
    exact hs
  · -- The reset touches neither balances nor totals.
    rcases current_eq wallet request.now with ⟨amount, resetAt, hcurrent⟩
    have hkey : wallet.playerId = request.playerId := Table.key_of_findOne hfind
    have hold := hs _ (Table.mem_of_findOne hfind)
    unfold Db.withWallet at hwallets
    rw [hcurrent] at hwallets
    refine bounds_save hwallets hs (fun w hw => ?_) hold.1 hold.2
    obtain rfl : w = wallet := Option.some.inj (hw.symm.trans (hkey ▸ hfind))
    exact ⟨le_refl _, le_refl _⟩

/-- A withdrawal that goes through takes no more than there is. -/
theorem sound_paid {request : WithdrawRequest} {wallet : PlayerWallet} (tx : WalletTransaction)
    (hs : NonNegative s) (hfind : s.wallets.findOne request.playerId = some wallet)
    (hpasses : request.passes wallet = true) (hamount : 0 < request.amount) :
    Sound (.withdraw request) s true { s.withWallet (request.paid wallet) with
        walletTxs := s.walletTxs ++ [tx] } ∧
      NonNegative { s.withWallet (request.paid wallet) with walletTxs := s.walletTxs ++ [tx] } := by
  have hkey : wallet.playerId = request.playerId := Table.key_of_findOne hfind
  have hold := hs _ (Table.mem_of_findOne hfind)
  have hsame := current_sameMoney wallet request.now
  have hpaidKey : (request.paid wallet).playerId = wallet.playerId := hsame.1
  have hpaidLocked : (request.paid wallet).lockedBalance = wallet.lockedBalance := hsame.2.2
  have hpaidDeposited : (request.paid wallet).totalDeposited = wallet.totalDeposited := by
    rcases current_eq wallet request.now with ⟨amount, resetAt, hcurrent⟩
    rw [WithdrawRequest.paid, hcurrent]
  -- The check compared the amount with what is available.
  have henough : request.amount ≤ wallet.availableBalance := by
    unfold WithdrawRequest.passes PlayerWallet.canWithdraw at hpasses
    simp only [Bool.and_eq_true, decide_eq_true_eq] at hpasses
    exact hpasses.1.1.2
  -- Only the one wallet is written.
  have hkeeps : NonNegative { s.withWallet (request.paid wallet) with
        walletTxs := s.walletTxs ++ [tx] } ∧
      TotalsGrow s { s.withWallet (request.paid wallet) with
        walletTxs := s.walletTxs ++ [tx] } := by
    refine bounds_save rfl hs (fun w hw => ?_) (Int.sub_nonneg_of_le henough)
      (hpaidLocked ▸ hold.2)
    rw [hpaidKey, hkey, hfind] at hw
    obtain rfl := Option.some.inj hw
    exact ⟨hpaidDeposited.ge, Int.le_add_of_nonneg_right hamount.le⟩
  refine ⟨⟨hkeeps.1, hkeeps.2, fun request' heq _ => ?_⟩, hkeeps.1⟩
  obtain rfl := WalletCall.withdraw.inj heq
  refine ⟨wallet, request.paid wallet, hfind, ?_, ?_⟩
  · rw [← hkey, ← hpaidKey]
    exact Table.findOne_save_self _ _
  · exact Int.sub_lt_self _ hamount

/-- A wallet is created with nothing in it. -/
theorem createWallet_bounds (request : CreatePlayerWalletRequest) (hs : NonNegative s) :
    (createWallet request).Ensures C s fun _ t => NonNegative t ∧ TotalsGrow s t := by
  refine ensures_mono (createWallet_ensures request s) fun r t ht => ?_
  cases r with
  | error e =>
      obtain rfl : t = s := ht
      exact ⟨hs, totalsGrow_of_wallets rfl⟩
  | ok wallet =>
      rcases ht with ⟨hnone, hkey, -, havailable, hlocked, -, -, -, -, rfl⟩
      refine bounds_save rfl hs (fun w hw => ?_) havailable.ge hlocked.ge
      rw [hkey, hnone] at hw
      exact nomatch hw

/-- A fee is taken from what is locked. -/
theorem deductEntryFee_bounds (playerId : String) (amount : Int) (hs : NonNegative s) :
    (deductEntryFee playerId amount).Ensures C s fun _ t => NonNegative t ∧ TotalsGrow s t := by
  refine ensures_mono (deductEntryFee_ensures playerId amount s) fun r t ht => ?_
  cases r with
  | error e =>
      rw [ht.1]
      exact ⟨hs, totalsGrow_of_wallets rfl⟩
  | ok _ =>
      rcases ht with ⟨wallet, hfind, henough, rfl⟩
      have hold := hs _ (Table.mem_of_findOne hfind)
      have hkey : wallet.playerId = playerId := Table.key_of_findOne hfind
      refine bounds_save rfl hs (fun w hw => ?_) hold.1 (Int.sub_nonneg_of_le henough)
      obtain rfl : w = wallet := Option.some.inj (hw.symm.trans (hkey ▸ hfind))
      exact ⟨le_refl _, le_refl _⟩

/-- A withdrawal keeps the bounds, and is paid from what there is if it succeeds. -/
theorem withdraw_sound {request : WithdrawRequest}
    (hfits : (WalletCall.withdraw request).AmountFits s) (hs : NonNegative s) :
    (withdraw request).Ensures C s fun r t =>
      Sound (.withdraw request) s r.toBool t ∧ NonNegative t := by
  refine ensures_mono (withdraw_ends request s) fun r t ht => ?_
  cases r with
  | error e =>
      have hkeeps : NonNegative t ∧ TotalsGrow s t := by
        -- Refused at once, or after the reset of a new day was saved.
        rcases ht.1 with rfl | ⟨wallet, hfind, u, hu, ht⟩
        · exact ⟨hs, totalsGrow_of_wallets rfl⟩
        · refine bounds_refused hs hfind hu ?_
          rcases ht with rfl | ⟨tx, -, -, rfl⟩ <;> rfl
      exact ⟨sound_of_bounds hkeeps fun _ _ => rfl, hkeeps.1⟩
  | ok tx =>
      rcases ht with ⟨wallet, hfind, hpasses, hsigned, -, -, rfl⟩
      exact sound_paid tx hs hfind hpasses (hfits wallet hfind hpasses hsigned)

/-- A call whose amounts fit keeps the balances and totals. -/
theorem fits_sound (hfees : call.FeesPositive) (hfits : call.AmountFits s) (hs : NonNegative s) :
    call.program.Ensures C s fun r t => Sound call s r.toBool t ∧ NonNegative t := by
  have hbalances : ∀ {playerId : String} {wallet : PlayerWallet},
      s.wallets.findOne playerId = some wallet →
        0 ≤ wallet.availableBalance ∧ 0 ≤ wallet.lockedBalance :=
    fun hfind => hs _ (Table.mem_of_findOne hfind)
  -- Of any call but a withdrawal only the bounds are asked.
  have hplain : ∀ {α : Type} {p : Service α}, (∀ request, call ≠ .withdraw request) →
      (p.Ensures C s fun _ t => NonNegative t ∧ TotalsGrow s t) →
      (discard p).Ensures C s fun r t => Sound call s r.toBool t ∧ NonNegative t := by
    intro α p hcall hp
    refine discard_toBool (R := fun ok t => Sound call s ok t ∧ NonNegative t)
      (ensures_mono hp fun r t ht => ⟨sound_of_bounds ht fun request heq => ?_, ht.1⟩)
    exact absurd heq (hcall request)
  cases call with
  | createWallet request => exact hplain (fun _ => nofun) (createWallet_bounds request hs)
  | deposit request =>
      refine hplain (fun _ => nofun) (moveFunds_bounds hs (fun _ _ => rfl)
        fun wallet hfind hok => ?_)
      -- A deposit is not checked, so its amount has to fit.
      have hamount := hfits wallet hfind hok
      have hold := hbalances hfind
      refine ⟨rfl, ?_, hold.2, ?_, le_refl _⟩
      · exact Int.add_nonneg hold.1 hamount
      · exact Int.le_add_of_nonneg_right hamount
  | lockFunds request =>
      refine hplain (fun _ => nofun) (moveFunds_bounds hs (fun _ _ => rfl)
        fun wallet hfind hok => ?_)
      have hfee : 0 < request.amount := hfees
      have hold := hbalances hfind
      -- The check leaves no less than nothing.
      have henough : request.amount ≤ wallet.availableBalance :=
        of_decide_eq_true (Bool.and_eq_true_iff.mp hok).2
      refine ⟨rfl, ?_, ?_, le_refl _, le_refl _⟩
      · exact Int.sub_nonneg_of_le henough
      · exact Int.add_nonneg hold.2 hfee.le
  | unlockFunds request =>
      refine hplain (fun _ => nofun) (moveFunds_bounds hs (fun _ _ => rfl)
        fun wallet hfind hok => ?_)
      have hfee : 0 < request.amount := hfees
      have hold := hbalances hfind
      -- The same for what is locked.
      have henough : request.amount ≤ wallet.lockedBalance := of_decide_eq_true hok
      refine ⟨rfl, ?_, ?_, le_refl _, le_refl _⟩
      · exact Int.add_nonneg hold.1 hfee.le
      · exact Int.sub_nonneg_of_le henough
  | creditPrize playerId amount reference =>
      refine hplain (fun _ => nofun) (moveFunds_bounds hs (fun _ _ => rfl) fun wallet hfind _ => ?_)
      have hprize : 0 < amount := hfees
      have hold := hbalances hfind
      exact ⟨rfl, Int.add_nonneg hold.1 hprize.le, hold.2, le_refl _, le_refl _⟩
  | deductEntryFee playerId amount =>
      exact hplain (fun _ => nofun) (deductEntryFee_bounds playerId amount hs)
  | withdraw request =>
      exact discard_toBool (R := fun ok t => Sound (.withdraw request) s ok t ∧ NonNegative t)
        (withdraw_sound hfits hs)

/-- Without refusals a step that keeps the bounds has an amount that fits. -/
theorem sound_fits
    (h : Sound call s ((call.program.eval s).1.toBool) (call.program.eval s).2) :
    call.AmountFits s := by
  cases call with
  | createWallet request => exact trivial
  | lockFunds request => exact trivial
  | unlockFunds request => exact trivial
  | creditPrize playerId amount reference => exact trivial
  | deductEntryFee playerId amount => exact trivial
  | deposit request =>
      intro wallet hfind hactive
      have hends := (ensures_false_iff (deposit request) s _).mp (moveFunds_ensures ..)
      -- Nothing is refused, so the deposit went through, and the total has not
      -- shrunk.
      have htotals := h.totals _ _ hfind
      unfold WalletCall.program at htotals
      rw [discard_eval] at htotals
      rcases hresult : ((deposit request).eval s).1 with e | tx
      · rw [hresult] at hends
        rcases hends.2 with hfalse | hnone | ⟨w, hw, hno⟩
        · exact hfalse.elim
        · exact nomatch hnone.symm.trans hfind
        · obtain rfl : w = wallet := Option.some.inj (hw.symm.trans hfind)
          exact absurd hactive (Bool.eq_false_iff.mp hno)
      · rw [hresult] at hends
        rcases hends with ⟨w, hw, -, -, hstore⟩
        obtain rfl : w = wallet := Option.some.inj (hw.symm.trans hfind)
        rcases htotals with ⟨wallet', hafter, hdeposited, -⟩
        rw [hstore, ← Table.key_of_findOne hfind] at hafter
        obtain rfl := Option.some.inj ((Table.findOne_save_self _ _).symm.trans hafter)
        simp only at hdeposited
        omega
  | withdraw request =>
      intro wallet hfind hpasses hsigned
      have hends := (ensures_false_iff (withdraw request) s _).mp (withdraw_ends request s)
      -- Likewise the withdrawal went through, and there is less than before.
      have hdecreases := h.decreases request rfl
      unfold WalletCall.program at hdecreases
      rw [discard_eval] at hdecreases
      rcases hresult : ((withdraw request).eval s).1 with e | tx
      · rw [hresult] at hends
        rcases hends.2 with hfalse | hunsigned
        · exact hfalse.elim
        · exact absurd hsigned (Bool.eq_false_iff.mp (hunsigned wallet hfind hpasses))
      · rw [hresult] at hends
        rcases hends with ⟨w, hw, -, -, -, -, hstore⟩
        obtain rfl : w = wallet := Option.some.inj (hw.symm.trans hfind)
        have hpaidKey : (request.paid w).playerId = request.playerId :=
          (current_sameMoney w request.now).1.trans (Table.key_of_findOne hfind)
        have hok : ((discard (withdraw request)).eval s).1.toBool = true := by
          unfold discard
          rw [eval_bind_ok (Prod.ext hresult rfl)]
          rfl
        rcases hdecreases hok with ⟨before, after, hbefore, hafter, hlt⟩
        obtain rfl : before = w := Option.some.inj (hbefore.symm.trans hfind)
        rw [hstore, ← hpaidKey] at hafter
        obtain rfl := Option.some.inj ((Table.findOne_save_self _ _).symm.trans hafter)
        have hpaid : (request.paid before).availableBalance =
          before.availableBalance - request.amount := rfl
        omega

end Balances

/-- In every run of the wallet service whose amounts fit, whatever the store
    refuses, every step keeps the balances and totals. In a run without
    refusals they are kept by every step only if the amounts fit. -/
theorem sound_iff_fits {s : Db} (hs : NonNegative s) (run : List (WalletCall × (Nat → Bool)))
    (hfees : ∀ call ∈ run, call.1.FeesPositive) :
    (AlongRun WalletCall.program (fun call s _ _ => call.AmountFits s) run s →
      AlongRun WalletCall.program Sound run s) ∧
    ((∀ call ∈ run, call.2 = calm) → AlongRun WalletCall.program Sound run s →
      AlongRun WalletCall.program (fun call s _ _ => call.AmountFits s) run s) := by
  constructor
  · intro hfits
    exact (alongRun_invariant (C := True)
      (fun call hcall t hfit ht => fits_sound (hfees call hcall) hfit ht)
      (fun _ _ => Or.inr trivial) hs hfits).1
  · intro hcalm hsound
    refine alongRun_mono (fun call hcall t ht => ?_) hsound
    rw [hcalm call hcall, run_calm] at ht
    exact sound_fits ht

/-- The calm run of the wallet calls. -/
def WalletCall.calmly (calls : List WalletCall) : List (WalletCall × (Nat → Bool)) :=
  calls.map fun call => (call, calm)

/-- A player with a deposit withdraws the amount. -/
def withdrawal (amount : Int) : List (WalletCall × (Nat → Bool)) :=
  WalletCall.calmly
    [.createWallet { playerId := "a", now := 0 },
     .deposit { playerId := "a", amount := 1000, signature := "deposit" },
     .withdraw { playerId := "a", amount := amount, now := 0, signTransaction := .ok "signed" }]

/-- A withdrawal of a negative amount goes through: the balance grows and the
    total that was withdrawn shrinks. A deposit of a negative amount overdraws
    the wallet. -/
theorem not_sound_negative :
    ¬AlongRun WalletCall.program Sound (withdrawal (-5)) Db.empty ∧
    ((afterRun WalletCall.program (withdrawal (-5)) Db.empty).wallets.findOne "a").map
      (fun wallet => (wallet.availableBalance, wallet.totalWithdrawn)) = some (1005, -5) ∧
    ¬AlongRun WalletCall.program Sound (WalletCall.calmly
      [.createWallet { playerId := "a", now := 0 },
       .deposit { playerId := "a", amount := -5, signature := "deposit" }]) Db.empty := by
  refine ⟨fun h => ?_, by decide +kernel, fun h => ?_⟩
  · have hfits := sound_fits h.2.2.1
    revert hfits
    decide +kernel
  · have hnonneg := h.2.1.nonNegative
    revert hnonneg
    unfold NonNegative
    decide +kernel

/-- A player withdraws a part of the deposit. -/
theorem sound_iff_fits_withdrawal :
    AlongRun WalletCall.program Sound (withdrawal 5) Db.empty := by
  refine (sound_iff_fits (fun wallet hmem => absurd hmem List.not_mem_nil) (withdrawal 5) ?_).1 ?_
  · intro call hcall
    simp only [withdrawal, WalletCall.calmly, List.map_cons, List.map_nil, List.mem_cons,
      List.not_mem_nil, or_false] at hcall
    rcases hcall with rfl | rfl | rfl <;> exact trivial
  · refine ⟨trivial, ?_, ?_, trivial⟩
    · intro _ _ _
      decide
    · intro _ _ _ _
      decide

/-! ### The log -/

/-- The sum of the rows of one type of a wallet. -/
def rowSum (txs : List WalletTransaction) (walletId : Nat) (type : WalletTransactionType) : Int :=
  ((txs.filter fun tx => tx.walletId = walletId && tx.type = type).map
    WalletTransaction.amount).sum

/-- The same for the completed rows. -/
def completedSum (txs : List WalletTransaction) (walletId : Nat) (type : WalletTransactionType) :
    Int :=
  rowSum (txs.filter fun tx => tx.status = .COMPLETED) walletId type

/-- The aggregates of a wallet are the sums of its rows, and `deducted` is what
    left the locked balance without a row. -/
structure Reconciled (txs : List WalletTransaction) (deducted : Int) (wallet : PlayerWallet) :
    Prop where
  available : wallet.availableBalance =
    rowSum txs wallet.id .DEPOSIT + rowSum txs wallet.id .PRIZE_WIN + rowSum txs wallet.id .REFUND -
      rowSum txs wallet.id .ENTRY_FEE - completedSum txs wallet.id .WITHDRAWAL
  locked : wallet.lockedBalance =
    rowSum txs wallet.id .ENTRY_FEE - rowSum txs wallet.id .REFUND - deducted
  deposited : wallet.totalDeposited = rowSum txs wallet.id .DEPOSIT
  winnings : wallet.totalWinnings = rowSum txs wallet.id .PRIZE_WIN
  entryFees : wallet.totalEntryFees = rowSum txs wallet.id .ENTRY_FEE
  withdrawn : wallet.totalWithdrawn = completedSum txs wallet.id .WITHDRAWAL

/-- Every wallet is reconciled with the log, given what was deducted from each
    player. Wallet ids are handed out in order, and no row is ahead of them. -/
structure Audited (s : Db) (deducted : String → Int) : Prop where
  reconciled : ∀ wallet ∈ s.wallets.rows,
    Reconciled s.walletTxs (deducted wallet.playerId) wallet
  ids : (s.wallets.rows.map PlayerWallet.id).Nodup
  issued : ∀ wallet ∈ s.wallets.rows, wallet.id < s.wallets.rows.length
  logged : ∀ tx ∈ s.walletTxs, tx.walletId < s.wallets.rows.length
  unknown : ∀ playerId, s.wallets.findOne playerId = none → deducted playerId = 0
  settled : ∀ tx ∈ s.walletTxs, tx.type = .WITHDRAWAL →
    tx.status = .COMPLETED ∨ tx.status = .FAILED

/-- What one call takes from the locked balance of a player without a row. -/
def WalletCall.deducts (call : WalletCall) (s : Db) (playerId : String) : Int :=
  match call with
  | deductEntryFee player amount =>
    if player = playerId ∧ (call.program.eval s).1.toBool = true then amount else 0
  | _ => 0

/-- What a calm run takes from the locked balance of a player without a row. -/
def deductedAlong (playerId : String) : List WalletCall → Db → Int
  | [], _ => 0
  | call :: calls, s =>
    call.deducts s playerId + deductedAlong playerId calls (call.program.eval s).2

/-- What the player can spend, if there is a wallet. -/
def Db.availableOf (s : Db) (playerId : String) : Option Int :=
  (s.wallets.findOne playerId).map PlayerWallet.availableBalance

/-- A withdrawal call leaves no row and the balance as it is, or one row that
    is completed and taken from the balance, or failed and not taken. -/
def Settles (call : WalletCall) (s : Db) (_ok : Bool) (t : Db) : Prop :=
  ∀ request, call = .withdraw request →
    (t.walletTxs = s.walletTxs ∧ t.availableOf request.playerId = s.availableOf request.playerId) ∨
    ∃ wallet tx, s.wallets.findOne request.playerId = some wallet ∧
      t.walletTxs = s.walletTxs ++ [tx] ∧ request.Records wallet tx ∧
      (tx.status = .COMPLETED ∧ t.availableOf request.playerId =
          some (wallet.availableBalance - tx.amount) ∨
        tx.status = .FAILED ∧ t.availableOf request.playerId = some wallet.availableBalance)

section Log

variable {s t : Db} {deducted deducted' : String → Int} {wallet wallet' : PlayerWallet}
  {txs : List WalletTransaction} {tx : WalletTransaction} {walletId : Nat}
  {type : WalletTransactionType}

theorem rowSum_append_single : rowSum (txs ++ [tx]) walletId type =
    rowSum txs walletId type + if tx.walletId = walletId ∧
      tx.type = type then tx.amount else 0 := by
  unfold rowSum
  rw [List.filter_append, List.map_append, List.sum_append]
  by_cases h : tx.walletId = walletId ∧ tx.type = type
  · simp [h]
  · have hno : (decide (tx.walletId = walletId) && decide (tx.type = type)) = false := by
      rw [← Bool.decide_and]
      exact decide_eq_false h
    simp [h, hno]

theorem completedSum_append_single : completedSum (txs ++ [tx]) walletId type =
    completedSum txs walletId type +
      if tx.status = .COMPLETED ∧ tx.walletId = walletId ∧
        tx.type = type then tx.amount else 0 := by
  unfold completedSum
  rw [List.filter_append]
  by_cases hstatus : tx.status = .COMPLETED
  · have hone : [tx].filter (fun tx => tx.status = .COMPLETED) = [tx] := by simp [hstatus]
    rw [hone, rowSum_append_single]
    simp only [hstatus, true_and]
  · have hnone : [tx].filter (fun tx => tx.status = .COMPLETED) = [] := by simp [hstatus]
    rw [hnone, List.append_nil, if_neg fun h => hstatus h.1, Int.add_zero]

theorem rowSum_unlogged (h : ∀ tx ∈ txs, tx.walletId ≠ walletId) :
    rowSum txs walletId type = 0 := by
  have hnone : (txs.filter fun tx => tx.walletId = walletId && tx.type = type) = [] := by
    rw [List.filter_eq_nil_iff]
    intro tx htx hboth
    exact h tx htx (of_decide_eq_true (Bool.and_eq_true_iff.mp hboth).1)
  unfold rowSum
  rw [hnone]
  rfl

/-- Rows of other wallets do not matter. -/
theorem reconciled_other {d : Int} (h : Reconciled txs d wallet) (hne : tx.walletId ≠ wallet.id) :
    Reconciled (txs ++ [tx]) d wallet := by
  -- The row adds to no sum of this wallet.
  have hrow : ∀ type, rowSum (txs ++ [tx]) wallet.id type = rowSum txs wallet.id type := by
    intro type
    rw [rowSum_append_single, if_neg fun h => hne h.1, Int.add_zero]
  have hcompleted : completedSum (txs ++ [tx]) wallet.id .WITHDRAWAL =
      completedSum txs wallet.id .WITHDRAWAL := by
    rw [completedSum_append_single, if_neg fun h => hne h.2.1, Int.add_zero]
  constructor
  · rw [hrow, hrow, hrow, hrow, hcompleted]
    exact h.available
  · rw [hrow, hrow]
    exact h.locked
  · rw [hrow]
    exact h.deposited
  · rw [hrow]
    exact h.winnings
  · rw [hrow]
    exact h.entryFees
  · rw [hcompleted]
    exact h.withdrawn

/-- Only the daily amount and the clock of the wallet changed. -/
theorem reconciled_same {d : Int} (h : Reconciled txs d wallet) (hid : wallet'.id = wallet.id)
    (havailable : wallet'.availableBalance = wallet.availableBalance)
    (hlocked : wallet'.lockedBalance = wallet.lockedBalance)
    (hdeposited : wallet'.totalDeposited = wallet.totalDeposited)
    (hwinnings : wallet'.totalWinnings = wallet.totalWinnings)
    (hentryFees : wallet'.totalEntryFees = wallet.totalEntryFees)
    (hwithdrawn : wallet'.totalWithdrawn = wallet.totalWithdrawn) : Reconciled txs d wallet' := by
  constructor
  · rw [hid, havailable]
    exact h.available
  · rw [hid, hlocked]
    exact h.locked
  · rw [hid, hdeposited]
    exact h.deposited
  · rw [hid, hwinnings]
    exact h.winnings
  · rw [hid, hentryFees]
    exact h.entryFees
  · rw [hid, hwithdrawn]
    exact h.withdrawn

/-- What a wallet books with the row of a withdrawal. -/
def settledAmount (tx : WalletTransaction) : Int := if tx.status = .COMPLETED then tx.amount else 0

/-- The row of a withdrawal counts if it is completed. -/
theorem reconciled_withdrawal {d : Int} (h : Reconciled txs d wallet)
    (hrow : tx.walletId = wallet.id) (htype : tx.type = .WITHDRAWAL) (hid : wallet'.id = wallet.id)
    (havailable : wallet'.availableBalance = wallet.availableBalance - settledAmount tx)
    (hlocked : wallet'.lockedBalance = wallet.lockedBalance)
    (hdeposited : wallet'.totalDeposited = wallet.totalDeposited)
    (hwinnings : wallet'.totalWinnings = wallet.totalWinnings)
    (hentryFees : wallet'.totalEntryFees = wallet.totalEntryFees)
    (hwithdrawn : wallet'.totalWithdrawn = wallet.totalWithdrawn + settledAmount tx) :
    Reconciled (txs ++ [tx]) d wallet' := by
  -- The row adds to the withdrawals, and only when it is completed.
  have hother : ∀ type, type ≠ .WITHDRAWAL →
      rowSum (txs ++ [tx]) wallet.id type = rowSum txs wallet.id type := by
    intro type hne
    rw [rowSum_append_single, if_neg fun h => hne (h.2.symm.trans htype), Int.add_zero]
  have hcompleted : completedSum (txs ++ [tx]) wallet.id .WITHDRAWAL =
      completedSum txs wallet.id .WITHDRAWAL + settledAmount tx := by
    rw [completedSum_append_single]
    unfold settledAmount
    simp only [hrow, htype, and_true]
  have hdeposit := hother .DEPOSIT nofun
  have hprize := hother .PRIZE_WIN nofun
  have hrefund := hother .REFUND nofun
  have hfee := hother .ENTRY_FEE nofun
  constructor
  · rw [hid, hdeposit, hprize, hrefund, hfee, hcompleted, havailable, h.available]
    omega
  · rw [hid, hfee, hrefund, hlocked, h.locked]
  · rw [hid, hdeposit, hdeposited, h.deposited]
  · rw [hid, hprize, hwinnings, h.winnings]
  · rw [hid, hfee, hentryFees, h.entryFees]
  · rw [hid, hcompleted, hwithdrawn, h.withdrawn]

/-- Two wallets with one id are one wallet. -/
theorem Audited.eq_of_id (h : Audited s deducted) (hw : wallet ∈ s.wallets.rows)
    (hw' : wallet' ∈ s.wallets.rows) (hid : wallet.id = wallet'.id) : wallet = wallet' :=
  List.inj_on_of_nodup_map h.ids hw hw' hid

/-- One wallet is saved and at most one of its rows appended. -/
theorem Audited.book (h : Audited s deducted)
    (hfind : s.wallets.findOne wallet.playerId = some wallet)
    (hwallets : t.wallets = s.wallets.save wallet') (htxs : t.walletTxs = s.walletTxs ++ txs)
    (hkey : wallet'.playerId = wallet.playerId) (hid : wallet'.id = wallet.id)
    (hrows : ∀ tx ∈ txs, tx.walletId = wallet.id ∧
      (tx.type = .WITHDRAWAL → tx.status = .COMPLETED ∨ tx.status = .FAILED))
    (hone : txs.length ≤ 1)
    (hothers : ∀ playerId, playerId ≠ wallet.playerId → deducted' playerId = deducted playerId)
    (hrec : Reconciled (s.walletTxs ++ txs) (deducted' wallet.playerId) wallet') :
    Audited t deducted' := by
  have hmem : wallet ∈ s.wallets.rows := Table.mem_of_findOne hfind
  have hsaved : t.wallets.rows =
      s.wallets.rows.map fun w => if w.playerId = wallet'.playerId then wallet' else w := by
    rw [hwallets]
    exact Table.save_rows_of_some (hkey ▸ hfind)
  have hlength : t.wallets.rows.length = s.wallets.rows.length := by
    rw [hsaved, List.length_map]
  have hids : t.wallets.rows.map PlayerWallet.id = s.wallets.rows.map PlayerWallet.id := by
    rw [hsaved, List.map_map]
    refine List.map_congr_left fun w hw => ?_
    by_cases hsame : w.playerId = wallet'.playerId
    · have hwallet : w = wallet := Table.eq_of_key hw hmem (hsame.trans hkey)
      rw [Function.comp_apply, if_pos hsame, hwallet, hid]
    · rw [Function.comp_apply, if_neg hsame]
  constructor
  · intro w hw
    rw [hwallets] at hw
    rw [htxs]
    rcases Table.mem_save.mp hw with rfl | ⟨hold, hne⟩
    · rw [hkey]
      exact hrec
    · -- Another wallet, so the new row is not one of its rows.
      have hother : w.playerId ≠ wallet.playerId := hkey ▸ hne
      have hnotId : wallet.id ≠ w.id := by
        intro heq
        exact hother (congrArg PlayerWallet.playerId (h.eq_of_id hold hmem heq.symm))
      rw [hothers _ hother]
      cases txs with
      | nil =>
          rw [List.append_nil]
          exact h.reconciled w hold
      | cons tx rest =>
          obtain rfl : rest = [] := List.length_eq_zero_iff.mp (by simpa using hone)
          refine reconciled_other (h.reconciled w hold) ?_
          rw [(hrows tx (List.mem_cons_self ..)).1]
          exact hnotId
  · rw [hids]
    exact h.ids
  · intro w hw
    rw [hlength]
    have hwid : w.id ∈ s.wallets.rows.map PlayerWallet.id := by
      rw [← hids]
      exact List.mem_map_of_mem hw
    rcases List.mem_map.mp hwid with ⟨old, hold, heq⟩
    rw [← heq]
    exact h.issued old hold
  · intro tx htx
    rw [hlength]
    rw [htxs] at htx
    rcases List.mem_append.mp htx with hold | hnew
    · exact h.logged tx hold
    · rw [(hrows tx hnew).1]
      exact h.issued wallet hmem
  · intro playerId hnone
    rw [hwallets] at hnone
    by_cases hplayer : playerId = wallet'.playerId
    · rw [hplayer, Table.findOne_save_self] at hnone
      exact nomatch hnone
    · rw [Table.findOne_save_of_ne hplayer] at hnone
      rw [hothers _ (hkey ▸ hplayer)]
      exact h.unknown playerId hnone
  · intro tx htx
    rw [htxs] at htx
    rcases List.mem_append.mp htx with hold | hnew
    · exact h.settled tx hold
    · exact (hrows tx hnew).2

/-- A recorded operation without refusals books its one row. -/
theorem moveFunds_audited (hs : Audited s deducted) {playerId : String}
    {allowed : PlayerWallet → Bool} {refusal : ServiceError}
    {record : PlayerWallet → WalletTransaction} {write : PlayerWallet → Db → Db}
    {change : PlayerWallet → PlayerWallet}
    (hwrite : ∀ wallet db, (write wallet db).wallets = db.wallets.save (change wallet) ∧
      (write wallet db).walletTxs = db.walletTxs)
    (hchange : ∀ wallet, (change wallet).playerId = wallet.playerId ∧
      (change wallet).id = wallet.id ∧ (record wallet).walletId = wallet.id ∧
      (record wallet).type ≠ .WITHDRAWAL)
    (hrec : ∀ wallet, Reconciled s.walletTxs (deducted wallet.playerId) wallet →
      Reconciled (s.walletTxs ++ [record wallet]) (deducted wallet.playerId) (change wallet)) :
    (moveFunds playerId allowed refusal record write).Ensures False s fun _ t =>
      Audited t deducted := by
  refine moveFunds_calm (fun _ => hs) fun wallet hfind _ => ?_
  rcases hchange wallet with ⟨hkey, hid, hrow, htype⟩
  have hplayer : wallet.playerId = playerId := Table.key_of_findOne hfind
  refine hs.book (hplayer ▸ hfind) (hwrite wallet _).1 (hwrite wallet _).2 hkey hid ?_
    (le_refl 1) (fun _ _ => rfl)
    (hrec wallet (hs.reconciled wallet (Table.mem_of_findOne hfind)))
  intro tx htx
  obtain rfl := List.mem_singleton.mp htx
  exact ⟨hrow, fun hwithdrawal => absurd hwithdrawal htype⟩

theorem createWallet_audited (hs : Audited s deducted) (request : CreatePlayerWalletRequest) :
    (createWallet request).Ensures False s fun _ t => Audited t deducted := by
  refine ensures_mono (createWallet_ensures request s) fun r t ht => ?_
  cases r with
  | error e =>
      obtain rfl : t = s := ht
      exact hs
  | ok wallet =>
      rcases ht with ⟨hnone, hkey, hid, havailable, hlocked, hdeposited, hwithdrawn, hwinnings,
        hentryFees, rfl⟩
      have hrows : (s.withWallet wallet).wallets.rows = s.wallets.rows ++ [wallet] :=
        Table.save_rows_of_none (hkey ▸ hnone)
      have hlength : (s.withWallet wallet).wallets.rows.length = s.wallets.rows.length + 1 := by
        rw [hrows, List.length_append]
        rfl
      -- The new id is ahead of all rows, so the sums of the new wallet are empty.
      have hfresh : ∀ tx ∈ s.walletTxs, tx.walletId ≠ wallet.id := by
        intro tx htx
        rw [hid]
        exact (hs.logged tx htx).ne
      have hzero : ∀ type, rowSum s.walletTxs wallet.id type = 0 :=
        fun type => rowSum_unlogged hfresh
      have hzero' : completedSum s.walletTxs wallet.id .WITHDRAWAL = 0 :=
        rowSum_unlogged fun tx htx => hfresh tx (List.mem_of_mem_filter htx)
      constructor
      · intro w hw
        rw [hrows] at hw
        rcases List.mem_append.mp hw with hold | hnew
        · exact hs.reconciled w hold
        · obtain rfl := List.mem_singleton.mp hnew
          rw [hkey, hs.unknown _ hnone]
          change Reconciled s.walletTxs 0 w
          constructor
          · rw [havailable, hzero, hzero, hzero, hzero, hzero']
            rfl
          · rw [hlocked, hzero, hzero]
            rfl
          · rw [hdeposited, hzero]
          · rw [hwinnings, hzero]
          · rw [hentryFees, hzero]
          · rw [hwithdrawn, hzero']
      · rw [hrows, List.map_append, List.map_singleton]
        refine List.nodup_append.mpr ⟨hs.ids, List.nodup_singleton _, ?_⟩
        intro a ha b hb
        obtain rfl := List.mem_singleton.mp hb
        rcases List.mem_map.mp ha with ⟨w, hw, rfl⟩
        rw [hid]
        exact (hs.issued w hw).ne
      · intro w hw
        rw [hlength]
        rw [hrows] at hw
        rcases List.mem_append.mp hw with hold | hnew
        · exact Nat.lt_succ_of_lt (hs.issued w hold)
        · rw [List.mem_singleton.mp hnew, hid]
          exact Nat.lt_succ_self _
      · intro tx htx
        rw [hlength]
        exact Nat.lt_succ_of_lt (hs.logged tx htx)
      · intro playerId hnone'
        by_cases hplayer : playerId = wallet.playerId
        · rw [hplayer] at hnone'
          exact nomatch (Table.findOne_save_self s.wallets wallet).symm.trans hnone'
        · exact hs.unknown playerId ((Table.findOne_save_of_ne hplayer).symm.trans hnone')
      · exact hs.settled

/-- Resetting the daily amount reconciles nothing anew. -/
theorem reconciled_current {d : Int} (now : Int) :
    Reconciled txs d (wallet.current now) ↔ Reconciled txs d wallet := by
  rcases current_eq wallet now with ⟨amount, resetAt, hcurrent⟩
  rw [hcurrent]
  exact ⟨fun h => reconciled_same h rfl rfl rfl rfl rfl rfl rfl,
    fun h => reconciled_same h rfl rfl rfl rfl rfl rfl rfl⟩

/-- A withdrawal that failed is no amount. -/
theorem reconciled_failed {d : Int} {request : WithdrawRequest} (h : Reconciled txs d wallet)
    (hrecords : request.Records wallet tx) (hfailed : tx.status = .FAILED) :
    Reconciled (txs ++ [tx]) d wallet := by
  have hnothing : settledAmount tx = 0 := by
    unfold settledAmount
    rw [hfailed]
    rfl
  refine reconciled_withdrawal h hrecords.1 hrecords.2.1 rfl ?_ rfl rfl rfl rfl ?_
  · rw [hnothing, Int.sub_zero]
  · rw [hnothing, Int.add_zero]

/-- A withdrawal that is completed is booked. -/
theorem Audited.paid {request : WithdrawRequest} (hs : Audited s deducted)
    (hfind : s.wallets.findOne request.playerId = some wallet)
    (hrecords : request.Records wallet tx) (hstatus : tx.status = .COMPLETED) :
    Audited { s.withWallet (request.paid wallet) with walletTxs := s.walletTxs ++ [tx] }
      deducted := by
  have hfind' : s.wallets.findOne wallet.playerId = some wallet :=
    Table.findOne_of_mem (Table.mem_of_findOne hfind)
  have hold := hs.reconciled wallet (Table.mem_of_findOne hfind)
  have hsettled : settledAmount tx = request.amount := by
    unfold settledAmount
    rw [if_pos hstatus, hrecords.2.2]
  rcases current_eq wallet request.now with ⟨amount, resetAt, hcurrent⟩
  -- What is paid changes two sums, and the amounts of the day.
  have hpaid : ∃ daily, request.paid wallet = { wallet with
      availableBalance := wallet.availableBalance - request.amount
      totalWithdrawn := wallet.totalWithdrawn + request.amount
      dailyWithdrawalAmount := daily
      dailyWithdrawalResetAt := resetAt
      lastWithdrawalAt := some request.now } := by
    unfold WithdrawRequest.paid
    rw [hcurrent]
    exact ⟨_, rfl⟩
  rcases hpaid with ⟨daily, hpaid⟩
  rw [hpaid]
  refine hs.book hfind' rfl rfl rfl rfl ?_ (le_refl 1) (fun _ _ => rfl) ?_
  · intro row hrow
    obtain rfl := List.mem_singleton.mp hrow
    exact ⟨hrecords.1, fun _ => Or.inl hstatus⟩
  · refine reconciled_withdrawal hold hrecords.1 hrecords.2.1 rfl ?_ rfl rfl rfl rfl ?_
    · rw [hsettled]
    · rw [hsettled]

/-- A withdrawal that is refused books at most a row that failed, and saves at most
    the reset of the daily amount. -/
theorem Audited.refused {request : WithdrawRequest} {u : Db} (hs : Audited s deducted)
    (hfind : s.wallets.findOne request.playerId = some wallet)
    (hu : u = s ∨ u = s.withWallet (wallet.current request.now)) (hone : txs.length ≤ 1)
    (hrows : ∀ tx ∈ txs, request.Records wallet tx ∧ tx.status = .FAILED)
    (hwallets : t.wallets = u.wallets) (htxs : t.walletTxs = s.walletTxs ++ txs) :
    Audited t deducted := by
  have hplayer : wallet.playerId = request.playerId := Table.key_of_findOne hfind
  -- The row that failed is in no sum.
  have hrec : Reconciled (s.walletTxs ++ txs) (deducted wallet.playerId) wallet := by
    have hold := hs.reconciled wallet (Table.mem_of_findOne hfind)
    cases txs with
    | nil =>
        rw [List.append_nil]
        exact hold
    | cons tx rest =>
        obtain rfl : rest = [] := List.length_eq_zero_iff.mp (by simpa using hone)
        rcases hrows tx (List.mem_cons_self ..) with ⟨hrecords, hfailed⟩
        exact reconciled_failed hold hrecords hfailed
  -- The reset of a new day is in no sum either.
  have hstored : ∃ w', t.wallets = s.wallets.save w' ∧ w'.playerId = wallet.playerId ∧
      w'.id = wallet.id ∧ Reconciled (s.walletTxs ++ txs) (deducted wallet.playerId) w' := by
    rcases hu with rfl | rfl
    · refine ⟨wallet, ?_, rfl, rfl, hrec⟩
      rw [hwallets, Table.save_of_findOne (hplayer ▸ hfind)]
    · refine ⟨_, hwallets, (current_sameMoney wallet request.now).1, ?_,
        (reconciled_current request.now).mpr hrec⟩
      rcases current_eq wallet request.now with ⟨amount, resetAt, hcurrent⟩
      rw [hcurrent]
  rcases hstored with ⟨w', hw', hkey, hid, hrec'⟩
  refine hs.book (hplayer ▸ hfind) hw' htxs hkey hid (fun tx htx => ?_) hone (fun _ _ => rfl) hrec'
  exact ⟨(hrows tx htx).1.1, fun _ => Or.inr (hrows tx htx).2⟩

/-- Resetting the daily amount leaves the balance. -/
theorem availableOf_current {request : WithdrawRequest} {u : Db}
    (hfind : s.wallets.findOne request.playerId = some wallet)
    (hu : u = s ∨ u = s.withWallet (wallet.current request.now)) :
    u.availableOf request.playerId = some wallet.availableBalance := by
  have hplayer : wallet.playerId = request.playerId := Table.key_of_findOne hfind
  have hsame := current_sameMoney wallet request.now
  unfold Db.availableOf
  rcases hu with rfl | rfl
  · rw [hfind]
    rfl
  · rw [Db.withWallet, ← hplayer, ← hsame.1, Table.findOne_save_self]
    exact congrArg some hsame.2.1

/-- A withdrawal without refusals books its row if it is completed, and leaves
    the balance alone if it failed. -/
theorem withdraw_audited (hs : Audited s deducted) (request : WithdrawRequest) :
    (withdraw request).Ensures False s fun r t =>
      Audited t deducted ∧ Settles (.withdraw request) s r.toBool t := by
  refine ensures_mono (withdraw_ends request s) fun r t ht => ?_
  cases r with
  | ok tx =>
      rcases ht with ⟨wallet, hfind, -, -, hrecords, hstatus, rfl⟩
      refine ⟨hs.paid hfind hrecords hstatus, fun request' heq => Or.inr ⟨wallet, tx, ?_⟩⟩
      obtain rfl := WalletCall.withdraw.inj heq
      refine ⟨hfind, rfl, hrecords, Or.inl ⟨hstatus, ?_⟩⟩
      have hkey : (request.paid wallet).playerId = request.playerId :=
        (current_sameMoney wallet request.now).1.trans (Table.key_of_findOne hfind)
      have hsaved : (s.wallets.save (request.paid wallet)).findOne request.playerId =
          some (request.paid wallet) := by
        rw [← hkey]
        exact Table.findOne_save_self _ _
      unfold Db.availableOf Db.withWallet
      rw [hsaved, hrecords.2.2]
      rfl
  | error e =>
      rcases ht.1 with rfl | ⟨wallet, hfind, u, hu, ht⟩
      · refine ⟨hs, fun request' heq => Or.inl ⟨rfl, ?_⟩⟩
        rfl
      have hbalance := availableOf_current hfind hu
      rcases ht with rfl | ⟨tx, hrecords, hstatus, rfl⟩
      · -- No row was written.
        have htxs : t.walletTxs = s.walletTxs := by rcases hu with rfl | rfl <;> rfl
        have hnone : ([] : List WalletTransaction).length ≤ 1 := Nat.zero_le 1
        refine ⟨hs.refused hfind hu hnone (fun tx htx => absurd htx List.not_mem_nil)
          rfl (htxs.trans (List.append_nil _).symm), fun request' heq => Or.inl ⟨htxs, ?_⟩⟩
        obtain rfl := WalletCall.withdraw.inj heq
        exact hbalance.trans (availableOf_current hfind (Or.inl rfl)).symm
      · have hfailed : tx.status = .FAILED := hstatus.resolve_left id
        refine ⟨hs.refused hfind hu (le_refl 1) (fun row hrow => ?_) rfl rfl,
          fun request' heq => Or.inr ⟨wallet, tx, ?_⟩⟩
        · obtain rfl := List.mem_singleton.mp hrow
          exact ⟨hrecords, hfailed⟩
        · obtain rfl := WalletCall.withdraw.inj heq
          exact ⟨hfind, rfl, hrecords, Or.inr ⟨hfailed, hbalance⟩⟩

theorem deductEntryFee_audited (hs : Audited s deducted) (playerId : String) (amount : Int) :
    (deductEntryFee playerId amount).Ensures False s fun r t => Audited t fun player =>
      deducted player + if playerId = player ∧ r.toBool = true then amount else 0 := by
  refine ensures_mono (deductEntryFee_ensures playerId amount s) fun r t ht => ?_
  cases r with
  | error e =>
      have hnothing : (fun player => deducted player + if playerId = player ∧
          (Except.error e : Except ServiceError Unit).toBool = true then amount else 0) =
          deducted := by
        funext player
        rw [if_neg fun h => Bool.false_ne_true h.2, Int.add_zero]
      rw [hnothing, ht.1]
      exact hs
  | ok _ =>
      rcases ht with ⟨wallet, hfind, -, rfl⟩
      have hplayer : wallet.playerId = playerId := Table.key_of_findOne hfind
      have hold := hs.reconciled wallet (Table.mem_of_findOne hfind)
      have hfind' : s.wallets.findOne wallet.playerId = some wallet := hplayer ▸ hfind
      -- No row tells of the fee, so it is noted beside the rows.
      refine hs.book hfind' rfl (List.append_nil _).symm rfl rfl
        (fun tx htx => absurd htx List.not_mem_nil) (Nat.zero_le 1) (fun player hne => ?_) ?_
      · rw [if_neg fun h => hne (hplayer ▸ h.1.symm), Int.add_zero]
      · have hhere : playerId = wallet.playerId ∧
            (Except.ok () : Except ServiceError Unit).toBool = true := ⟨hplayer.symm, rfl⟩
        rw [List.append_nil, if_pos hhere]
        refine ⟨hold.available, ?_, hold.deposited, hold.winnings, hold.entryFees, hold.withdrawn⟩
        have hlocked := hold.locked
        change wallet.lockedBalance - amount = rowSum s.walletTxs wallet.id .ENTRY_FEE -
          rowSum s.walletTxs wallet.id .REFUND - (deducted wallet.playerId + amount)
        omega

/-- One call without refusals keeps the sums. -/
theorem audited_step (hs : Audited s deducted) (call : WalletCall) :
    Audited (call.program.eval s).2 (fun player => deducted player + call.deducts s player) ∧
      Settles call s (call.program.eval s).1.toBool (call.program.eval s).2 := by
  -- Most calls deduct nothing, and of them nothing is promised besides.
  have hplain : ∀ {call : WalletCall} {α : Type} {p : Service α}, call.program = discard p →
      (∀ player, call.deducts s player = 0) → (∀ request, call ≠ .withdraw request) →
      (p.Ensures False s fun _ t => Audited t deducted) →
      Audited (call.program.eval s).2 (fun player => deducted player + call.deducts s player) ∧
        Settles call s (call.program.eval s).1.toBool (call.program.eval s).2 := by
    intro call α p hprogram hdeducts hcall hp
    have hnothing : (fun player => deducted player + call.deducts s player) = deducted := by
      funext player
      rw [hdeducts, Int.add_zero]
    rw [hnothing, hprogram, discard_eval]
    exact ⟨(ensures_false_iff ..).mp hp, fun request heq => absurd heq (hcall request)⟩
  cases call with
  | createWallet request =>
      exact hplain rfl (fun _ => rfl) (fun _ => nofun) (createWallet_audited hs request)
  | deposit request =>
      refine hplain rfl (fun _ => rfl) (fun _ => nofun)
        (moveFunds_audited hs (fun _ _ => ⟨rfl, rfl⟩)
        (fun _ => ⟨rfl, rfl, rfl, nofun⟩) fun wallet hrec => ?_)
      rcases hrec with ⟨h1, h2, h3, h4, h5, h6⟩
      constructor <;> simp [rowSum_append_single, completedSum_append_single] <;> omega
  | lockFunds request =>
      refine hplain rfl (fun _ => rfl) (fun _ => nofun)
        (moveFunds_audited hs (fun _ _ => ⟨rfl, rfl⟩)
        (fun _ => ⟨rfl, rfl, rfl, nofun⟩) fun wallet hrec => ?_)
      rcases hrec with ⟨h1, h2, h3, h4, h5, h6⟩
      constructor <;> simp [rowSum_append_single, completedSum_append_single] <;> omega
  | unlockFunds request =>
      refine hplain rfl (fun _ => rfl) (fun _ => nofun)
        (moveFunds_audited hs (fun _ _ => ⟨rfl, rfl⟩)
        (fun _ => ⟨rfl, rfl, rfl, nofun⟩) fun wallet hrec => ?_)
      rcases hrec with ⟨h1, h2, h3, h4, h5, h6⟩
      constructor <;> simp [rowSum_append_single, completedSum_append_single] <;> omega
  | creditPrize playerId amount reference =>
      refine hplain rfl (fun _ => rfl) (fun _ => nofun)
        (moveFunds_audited hs (fun _ _ => ⟨rfl, rfl⟩)
        (fun _ => ⟨rfl, rfl, rfl, nofun⟩) fun wallet hrec => ?_)
      rcases hrec with ⟨h1, h2, h3, h4, h5, h6⟩
      constructor <;> simp [rowSum_append_single, completedSum_append_single] <;> omega
  | deductEntryFee playerId amount =>
      have hends := (ensures_false_iff ..).mp
        (discard_toBool (R := fun ok t => Audited t fun player =>
          deducted player + if playerId = player ∧ ok = true then amount else 0)
          (deductEntryFee_audited hs playerId amount))
      exact ⟨hends, fun request heq => nomatch heq⟩
  | withdraw request =>
      have hnothing : (fun player => deducted player +
          (WalletCall.withdraw request).deducts s player) = deducted := by
        funext player
        exact Int.add_zero _
      rw [hnothing]
      exact (ensures_false_iff ..).mp
        (discard_toBool (R := fun ok t => Audited t deducted ∧
          Settles (.withdraw request) s ok t) (withdraw_audited hs request))

theorem audited_run (calls : List WalletCall) (hs : Audited s deducted) :
    Audited (afterRun WalletCall.program (WalletCall.calmly calls) s)
        (fun player => deducted player + deductedAlong player calls s) ∧
      AlongRun WalletCall.program Settles (WalletCall.calmly calls) s := by
  -- What is deducted along the run adds up call by call.
  induction calls generalizing s deducted with
  | nil =>
      have hnothing : (fun player => deducted player + deductedAlong player [] s) = deducted := by
        funext player
        exact Int.add_zero _
      rw [hnothing]
      exact ⟨hs, trivial⟩
  | cons call calls ih =>
      have hone := audited_step hs call
      have hrest := ih hone.1
      have hsum : (fun player => deducted player + deductedAlong player (call :: calls) s) =
          fun player => deducted player + call.deducts s player +
            deductedAlong player calls (call.program.eval s).2 := by
        funext player
        exact (Int.add_assoc _ _ _).symm
      have hafter : afterRun WalletCall.program (WalletCall.calmly (call :: calls)) s =
          afterRun WalletCall.program (WalletCall.calmly calls) (call.program.eval s).2 := by
        unfold afterRun WalletCall.calmly
        rw [List.map_cons, List.foldl_cons, run_calm]
      refine ⟨by rw [hsum, hafter]; exact hrest.1, ?_⟩
      unfold WalletCall.calmly
      rw [List.map_cons]
      unfold AlongRun
      simp only [run_calm]
      exact ⟨hone.2, hrest.2⟩

end Log

/-- In every run of the wallet service without refusals every wallet agrees
    with its log, and every withdrawal settles its row. -/
theorem wallets_reconcile (calls : List WalletCall) :
    (∀ wallet ∈ (afterRun WalletCall.program (WalletCall.calmly calls) Db.empty).wallets.rows,
      Reconciled (afterRun WalletCall.program (WalletCall.calmly calls) Db.empty).walletTxs
        (deductedAlong wallet.playerId calls Db.empty) wallet) ∧
    AlongRun WalletCall.program Settles (WalletCall.calmly calls) Db.empty ∧
    ∀ tx ∈ (afterRun WalletCall.program (WalletCall.calmly calls) Db.empty).walletTxs,
      tx.type = .WITHDRAWAL → tx.status = .COMPLETED ∨ tx.status = .FAILED := by
  have hstart : Audited Db.empty fun _ => 0 :=
    ⟨fun wallet hmem => absurd hmem List.not_mem_nil, List.nodup_nil,
      fun wallet hmem => absurd hmem List.not_mem_nil,
      fun tx hmem => absurd hmem List.not_mem_nil, fun _ _ => rfl,
      fun tx hmem => absurd hmem List.not_mem_nil⟩
  rcases audited_run calls hstart with ⟨haudited, hsettles⟩
  refine ⟨fun wallet hmem => ?_, hsettles, haudited.settled⟩
  have hrec := haudited.reconciled wallet hmem
  rwa [Int.zero_add] at hrec

end Esports

end SvmCourse
