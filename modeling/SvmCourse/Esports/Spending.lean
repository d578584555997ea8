import SvmCourse.Core.Serial
import SvmCourse.Esports.Accounts

/-!
# Spending at the Same Time

Withdrawals, locks and prize credits of one wallet, made at the same time. Each
of them reads the wallet, writes its record, and saves the wallet with the
amount taken off or put on the balance it has read, so of two that overlap the
one that saves first is forgotten: a prize is lost, or money is spent twice.

Calls that get past their checks one after the other spend what is there. A
call that is refused by its checks is refused right after reading, and may come
at any time. Signing touches no row, so when it happens does not matter.

## Main definitions

* `SpendCall`: A withdrawal, a lock or a prize credit.
* `WithinMeans`: What was spent was there, and what was won is there.
* `SpendCall.goesOn`: The wallet lets the call get past its checks.
* `spendsAlone`: Nobody gets past the checks while somebody else is on the way.

## Theorems

* `spend_calm`: What one call does.
* `spends_withinMeans`: Calls that go on alone spend what is there.
-/

namespace SvmCourse

namespace Esports

open Core Core.Prog Core.Machine Core.Sched

/-! ### Calls -/

/-- A call that takes money from the wallet or puts a prize into it. -/
inductive SpendCall where
  | withdraw (amount now dailyLimit : Int) (signTransaction : Except ServiceError String)
  | lockFunds (amount : Int) (reference : SourceId)
  | creditPrize (amount : Int) (reference : SourceId)

namespace SpendCall

/-- The amount that a call moves. -/
def amount : SpendCall → Int
  | withdraw amount _ _ _ => amount
  | lockFunds amount _ => amount
  | creditPrize amount _ => amount

/-- What a call does for the player, access by access. -/
def program (playerId : String) : SpendCall → Service Unit
  | withdraw amount now dailyLimit signTransaction => discard (Esports.withdraw
      { playerId := playerId, amount := amount, now := now, dailyLimit := dailyLimit
        signTransaction := signTransaction })
  | lockFunds amount reference => discard (Esports.lockFunds
      { playerId := playerId, amount := amount, reference := reference })
  | creditPrize amount reference => discard (Esports.creditPrize playerId amount reference)

/-- The call makes another access after reading the wallet: it passes its
    checks, or saves the daily amount before it has made all of them. -/
def goesOn (wallet : PlayerWallet) : SpendCall → Bool
  | withdraw amount now dailyLimit signTransaction =>
    wallet.canWithdraw amount && (dailyResetDue wallet now || WithdrawRequest.passes
      { playerId := wallet.playerId, amount := amount, now := now, dailyLimit := dailyLimit
        signTransaction := signTransaction } wallet)
  | lockFunds amount _ => wallet.canLock amount
  | creditPrize _ _ => true

end SpendCall

/-- Calls of one player that run at the same time. -/
abbrev SpendPool := Pool Db ServiceError SpendCall

/-- A call goes on after reading the wallet only while no other call is between
    its first access and its last. -/
def spendsAlone (playerId : String) (m : Move SpendCall) (pool : SpendPool) : Bool :=
  match m with
  | .start _ => true
  | .access i => (pool.threads[i]?).all fun thread =>
      !(thread.made = 0 &&
          (pool.store.wallets.findOne playerId).any fun wallet => thread.call.goesOn wallet) ||
        pool.threads.all fun other => !other.midway

/-! ### Spending and winning -/

/-- The rows written since `s`. -/
def Db.rowsSince (s t : Db) : List WalletTransaction := t.walletTxs.drop s.walletTxs.length

/-- Completed withdrawals and entry fees among the rows. -/
def spent (txs : List WalletTransaction) (wallet : PlayerWallet) : Int :=
  completedSum txs wallet.id .WITHDRAWAL + rowSum txs wallet.id .ENTRY_FEE

/-- What the rows say was won. -/
def won (txs : List WalletTransaction) (wallet : PlayerWallet) : Int :=
  rowSum txs wallet.id .PRIZE_WIN

/-- From `s` to `t` the player has spent no more than was available and won,
    and whatever was won and not spent is available. -/
structure WithinMeans (s t : Db) (playerId : String) : Prop where
  covered : ∀ wallet, s.wallets.findOne playerId = some wallet →
    spent (s.rowsSince t) wallet ≤ wallet.availableBalance + won (s.rowsSince t) wallet
  credited : ∀ wallet wallet', s.wallets.findOne playerId = some wallet →
    t.wallets.findOne playerId = some wallet' →
    wallet.availableBalance + won (s.rowsSince t) wallet ≤
      wallet'.availableBalance + spent (s.rowsSince t) wallet

/-! ### One call -/

/-- What a row adds to the available balance. -/
def WalletTransaction.gain (tx : WalletTransaction) : Int :=
  match tx.type with
  | .PRIZE_WIN => tx.amount
  | .ENTRY_FEE => -tx.amount
  | .WITHDRAWAL => if tx.status = .COMPLETED then -tx.amount else 0
  | _ => 0

/-- Since the wallet was `start` and the rows were `rows`, the balance has moved
    with the rows. -/
def Accounted (start : PlayerWallet) (rows : List WalletTransaction) (t : Db) : Prop :=
  ∃ txs wallet, t.walletTxs = rows ++ txs ∧ t.wallets.findOne start.playerId = some wallet ∧
    wallet.id = start.id ∧ 0 ≤ wallet.availableBalance ∧
    wallet.availableBalance + spent txs start = start.availableBalance + won txs start

section Calls

variable {t u : Db} {start wallet wallet' : PlayerWallet} {rows : List WalletTransaction}
  {tx : WalletTransaction}

theorem gain_append (txs : List WalletTransaction) (hid : tx.walletId = wallet.id) :
    won (txs ++ [tx]) wallet - spent (txs ++ [tx]) wallet =
      won txs wallet - spent txs wallet + tx.gain := by
  unfold won spent WalletTransaction.gain
  simp only [rowSum_append_single, completedSum_append_single, hid, true_and]
  by_cases hstatus : tx.status = .COMPLETED
  · cases htype : tx.type <;> simp [hstatus] <;> omega
  · cases htype : tx.type <;> simp [hstatus] <;> omega

/-- A wallet saved with a row that says what has changed. -/
theorem accounted_saved (h : Accounted start rows t)
    (hfind : t.wallets.findOne start.playerId = some wallet)
    (hwallets : u.wallets = t.wallets.save wallet') (htxs : u.walletTxs = t.walletTxs ++ [tx])
    (hid : wallet'.id = wallet.id) (hplayer : wallet'.playerId = wallet.playerId)
    (htx : tx.walletId = wallet.id) (hnonneg : 0 ≤ wallet'.availableBalance)
    (hgain : wallet'.availableBalance = wallet.availableBalance + tx.gain) :
    Accounted start rows u := by
  rcases h with ⟨txs, found, hrows, hfound, hsame, -, hbalance⟩
  obtain rfl := Option.some.inj (hfind.symm.trans hfound)
  have hkey : wallet'.playerId = start.playerId := hplayer.trans (Table.key_of_findOne hfind)
  refine ⟨txs ++ [tx], wallet', ?_, ?_, hid.trans hsame, hnonneg, ?_⟩
  · rw [htxs, hrows, List.append_assoc]
  · rw [hwallets, ← hkey]
    exact Table.findOne_save_self t.wallets wallet'
  · have hsums := gain_append txs (htx.trans hsame)
    omega

/-- A wallet saved with the money it had. -/
theorem accounted_sameMoney (h : Accounted start rows t)
    (hfind : t.wallets.findOne start.playerId = some wallet) (hid : wallet'.id = wallet.id)
    (hmoney : sameMoney wallet' wallet) : Accounted start rows (t.withWallet wallet') := by
  rcases h with ⟨txs, found, hrows, hfound, hsame, hnonneg, hbalance⟩
  obtain rfl := Option.some.inj (hfind.symm.trans hfound)
  have hkey : wallet'.playerId = start.playerId := hmoney.1.trans (Table.key_of_findOne hfind)
  refine ⟨txs, wallet', hrows, ?_, hid.trans hsame, hmoney.2.1 ▸ hnonneg, hmoney.2.1 ▸ hbalance⟩
  rw [← hkey]
  exact Table.findOne_save_self t.wallets wallet'

/-- A row that changes no balance. -/
theorem accounted_row (h : Accounted start rows t) (hid : tx.walletId = start.id)
    (hgain : tx.gain = 0) :
    Accounted start rows { t with walletTxs := t.walletTxs ++ [tx] } := by
  rcases h with ⟨txs, found, hrows, hfound, hsame, hnonneg, hbalance⟩
  have hsums := gain_append txs hid
  refine ⟨txs ++ [tx], found, ?_, hfound, hsame, hnonneg, ?_⟩
  · rw [hrows, List.append_assoc]
  · omega

theorem Accounted.id_eq (h : Accounted start rows t)
    (hfind : t.wallets.findOne start.playerId = some wallet) : wallet.id = start.id := by
  rcases h with ⟨txs, found, -, hfound, hsame, -, -⟩
  exact Option.some.inj (hfind.symm.trans hfound) ▸ hsame

theorem lockFunds_accounted (h : Accounted start rows t) {request : LockFundsRequest}
    (hplayer : request.playerId = start.playerId) :
    (lockFunds request).Ensures False t fun _ u => Accounted start rows u := by
  refine moveFunds_calm (fun _ => h) fun wallet hfind hcan => ?_
  rw [hplayer] at hfind
  unfold PlayerWallet.canLock at hcan
  rw [Bool.and_eq_true, decide_eq_true_eq] at hcan
  refine accounted_saved h hfind rfl rfl rfl rfl rfl ?_ ?_
  · exact Int.sub_nonneg_of_le hcan.2
  · exact Int.sub_eq_add_neg

theorem creditPrize_accounted (h : Accounted start rows t) {amount : Int} (hamount : 0 < amount)
    (reference : SourceId) : (creditPrize start.playerId amount reference).Ensures False t
      fun _ u => Accounted start rows u := by
  refine moveFunds_calm (fun _ => h) fun wallet hfind _ => ?_
  rcases h with ⟨txs, found, hrows, hfound, hid, hnonneg, hbalance⟩
  obtain rfl := Option.some.inj (hfind.symm.trans hfound)
  refine accounted_saved ⟨txs, wallet, hrows, hfind, hid, hnonneg, hbalance⟩ hfind rfl rfl
    rfl rfl rfl ?_ rfl
  change 0 ≤ wallet.availableBalance + amount
  omega

theorem withdraw_accounted (h : Accounted start rows t) {request : WithdrawRequest}
    (hplayer : request.playerId = start.playerId) :
    (withdraw request).Ensures False t fun _ u => Accounted start rows u := by
  refine ensures_mono (withdraw_ends request t) fun r u hu => ?_
  have hcurrent : ∀ wallet : PlayerWallet,
      (wallet.current request.now).id = wallet.id ∧ sameMoney (wallet.current request.now) wallet :=
    fun wallet => ⟨by rcases current_eq wallet request.now with ⟨_, _, h⟩; rw [h],
      current_sameMoney wallet request.now⟩
  cases r with
  | ok tx =>
      rcases hu with ⟨wallet, hfind, hpasses, -, ⟨hid, htype, hamount⟩, hstatus, rfl⟩
      rw [hplayer] at hfind
      unfold WithdrawRequest.passes PlayerWallet.canWithdraw at hpasses
      simp only [Bool.and_eq_true, decide_eq_true_eq] at hpasses
      refine accounted_saved h hfind rfl rfl (hcurrent wallet).1 (hcurrent wallet).2.1 hid ?_ ?_
      · exact Int.sub_nonneg_of_le hpasses.1.1.2
      · unfold WalletTransaction.gain
        rw [htype, hamount]
        simp only [hstatus, if_true]
        exact Int.sub_eq_add_neg
  | error e =>
      rcases hu.1 with rfl | ⟨wallet, hfind, v, hv', hu⟩
      · exact h
      · -- The day may be brought up to date, and a failed row may be left behind.
        rw [hplayer] at hfind
        have hv : Accounted start rows v := by
          rcases hv' with rfl | rfl
          · exact h
          · exact accounted_sameMoney h hfind (hcurrent wallet).1 (hcurrent wallet).2
        rcases hu with rfl | ⟨tx, ⟨hid, htype, -⟩, hstatus, rfl⟩
        · exact hv
        · have htxs : v.walletTxs = t.walletTxs := by rcases hv' with rfl | rfl <;> rfl
          rw [← htxs]
          refine accounted_row hv (hid.trans (h.id_eq hfind)) ?_
          unfold WalletTransaction.gain
          rw [htype]
          simp [hstatus.resolve_left id]

theorem spend_calm (h : Accounted start rows t) {call : SpendCall} (hamount : 0 < call.amount) :
    (call.program start.playerId).Ensures False t fun _ u => Accounted start rows u := by
  cases call with
  | withdraw amount now dailyLimit signTransaction =>
      exact discard_ensures (withdraw_accounted h rfl)
  | lockFunds amount reference => exact discard_ensures (lockFunds_accounted h rfl)
  | creditPrize amount reference =>
      exact discard_ensures (creditPrize_accounted h hamount reference)

theorem moveFunds_next (playerId : String) (allowed : PlayerWallet → Bool)
    (refusal : ServiceError) (record : PlayerWallet → WalletTransaction)
    (write : PlayerWallet → Db → Db) (db : Db) :
    ((discard (moveFunds playerId allowed refusal record write)).next db).2 = db ∧
      match (db.wallets.findOne playerId).any allowed with
      | true => ((discard (moveFunds playerId allowed refusal record write)).next db).1.unfinished =
          true
      | false => ∃ e,
          ((discard (moveFunds playerId allowed refusal record write)).next db).1.outcome
          = some (.error e) := by
  refine ⟨rfl, ?_⟩
  simp only [discard, moveFunds, getWallet, walletRepository.findOne, query, perform, bind_eq,
    Prog.bind, next]
  cases db.wallets.findOne playerId with
  | none => exact ⟨_, rfl⟩
  | some wallet =>
      simp only [Option.any_some, demand, Prog.bind]
      cases allowed wallet with
      | true => rfl
      | false => exact ⟨_, rfl⟩

/-- The first access of a call reads the wallet, and turns away a call that does
    not go on. -/
theorem spend_next (playerId : String) (call : SpendCall) (db : Db) :
    ((call.program playerId).next db).2 = db ∧
      match (db.wallets.findOne playerId).any fun wallet => call.goesOn wallet with
      | true => ((call.program playerId).next db).1.unfinished = true
      | false => ∃ e, ((call.program playerId).next db).1.outcome = some (.error e) := by
  cases call with
  | lockFunds amount reference => exact moveFunds_next ..
  | creditPrize amount reference => exact moveFunds_next ..
  | withdraw amount now dailyLimit signTransaction =>
      refine ⟨rfl, ?_⟩
      simp only [SpendCall.program, discard, withdraw, getWallet, walletRepository.findOne, query,
        perform, bind_eq, Prog.bind, next]
      cases db.wallets.findOne playerId with
      | none => exact ⟨_, rfl⟩
      | some wallet =>
          simp only [Option.any_some, demand, Prog.bind, SpendCall.goesOn,
            WithdrawRequest.passes]
          cases hcan : wallet.canWithdraw amount with
          | false =>
              simp only [Bool.false_and]
              cases wallet.isActive <;> exact ⟨_, rfl⟩
          | true =>
              -- A new day is saved first, and the limits are checked after that.
              have hactive : wallet.isActive = true := by
                unfold PlayerWallet.canWithdraw at hcan
                rw [Bool.and_eq_true] at hcan
                exact hcan.1
              simp only [hactive, require, if_true, Prog.bind, checkWithdrawalLimits,
                Bool.true_and]
              cases hdue : dailyResetDue wallet now with
              | true => rfl
              | false =>
                  have hcurrent : wallet.current now = wallet := by
                    unfold PlayerWallet.current
                    rw [hdue]
                    rfl
                  simp only [hcurrent, Bool.false_or]
                  by_cases hlimit : wallet.dailyWithdrawalAmount + amount ≤ dailyLimit
                  · simp only [hlimit, decide_true, Bool.true_and, Bool.false_eq_true, if_false,
                      if_true, bind_eq, pure_eq, Prog.bind, checkCooldown]
                    cases wallet.lastWithdrawalAt with
                    | none => rfl
                    | some last =>
                        simp only [Option.all_some]
                        cases decide (WITHDRAWAL_COOLDOWN_MS ≤ now - last) with
                        | true => rfl
                        | false => exact ⟨_, rfl⟩
                  · simp only [hlimit, decide_false, Bool.false_and]
                    exact ⟨_, rfl⟩

end Calls

/-! ### Many calls -/

/-- Calls with what they have come to. -/
abbrev SpendRecord := List (SpendCall × Option (Except ServiceError Unit))

/-- How the store goes together with the calls since the wallet was `start`. -/
structure SpendLog (start : PlayerWallet) (rows : List WalletTransaction) (log : SpendRecord)
    (t : Db) : Prop where
  amounts : ∀ entry ∈ log, 0 < entry.1.amount
  accounted : Accounted start rows t

/-- A move that starts a call with a positive amount, or makes an access of one
    that goes on alone. -/
structure SpendsInTurn (playerId : String) (m : Move SpendCall) (pool : SpendPool) : Prop where
  alone : spendsAlone playerId m pool = true
  amount : ∀ call, m = .start call → 0 < call.amount

section Log

variable {start : PlayerWallet} {rows : List WalletTransaction} {log log' : SpendRecord}
  {call : SpendCall} {t u : Db}

theorem SpendLog.finish {r : Except ServiceError Unit}
    (h : SpendLog start rows (log ++ (call, none) :: log') t) (hu : Accounted start rows u) :
    SpendLog start rows (log ++ (call, some r) :: log') u := by
  rcases List.forall_mem_append.mp h.amounts with ⟨hbefore, hafter⟩
  rcases List.forall_mem_cons.mp hafter with ⟨hself, hrest⟩
  exact ⟨List.forall_mem_append.mpr ⟨hbefore, List.forall_mem_cons.mpr ⟨hself, hrest⟩⟩, hu⟩

theorem spend_law (start : PlayerWallet) (rows : List WalletTransaction) :
    SerialLaw (SpendCall.program start.playerId) (SpendsInTurn start.playerId) (fun _ => True)
      (fun _ => False) (SpendLog start rows) where
  unfinished call := by cases call <;> rfl
  keeps _ := upholds_trivial _
  idles _ := False.elim
  waits pool i call hP _ hget hproceeds := by
    -- A call that has read the wallet and goes on was alone.
    have halone := hP.alone
    unfold Thread.proceeds at hproceeds
    rw [Bool.and_eq_true] at hproceeds
    have hnext := (spend_next start.playerId call pool.store).2
    cases hgoes : (pool.store.wallets.findOne start.playerId).any fun wallet =>
      call.goesOn wallet with
    | false =>
        rw [hgoes] at hnext
        rcases hnext with ⟨e, he⟩
        exact nomatch (outcome_of_unfinished hproceeds.2).symm.trans he
    | true =>
        have hbegun : (Thread.begin (SpendCall.program start.playerId) call).call = call := rfl
        simp only [spendsAlone, hget, Option.all_some, hbegun, hgoes, Bool.and_true, hproceeds.1,
          Bool.not_true, Bool.false_or, List.all_eq_true, Bool.not_eq_true'] at halone
        exact fun other hmem => Or.inr (halone other hmem)
  start pool call t hP hlog := by
    refine ⟨List.forall_mem_append.mpr ⟨hlog.amounts, fun entry hmem => ?_⟩, hlog.accounted⟩
    rw [List.mem_singleton.mp hmem]
    exact hP.amount call rfl
  finish log call log' t r u _ heval hlog := by
    have hamount := hlog.amounts (call, none) (List.mem_append_right _ (List.mem_cons_self ..))
    have hresult := (ensures_false_iff ..).mp (spend_calm hlog.accounted hamount)
    rw [heval] at hresult
    exact hlog.finish hresult
  refuse log call log' t u r _ houtcome hlog := ⟨(spend_next start.playerId call u).1,
    hlog.finish hlog.accounted⟩
  reject log call log' t e hlog := hlog.finish hlog.accounted

theorem Accounted.withinMeans {s : Db} (hfind : s.wallets.findOne start.playerId = some start)
    (h : Accounted start s.walletTxs t) : WithinMeans s t start.playerId := by
  rcases h with ⟨txs, found, hrows, hfound, -, hnonneg, hbalance⟩
  -- The rows since the start are those that account for the balance.
  have hsince : s.rowsSince t = txs := by
    unfold Db.rowsSince
    rw [hrows, List.drop_left]
  constructor
  · intro wallet hwallet
    obtain rfl := Option.some.inj (hfind.symm.trans hwallet)
    rw [hsince]
    omega
  · intro wallet wallet' hwallet hwallet'
    obtain rfl := Option.some.inj (hfind.symm.trans hwallet)
    obtain rfl := Option.some.inj (hfound.symm.trans hwallet')
    rw [hsince]
    omega

end Log

/-- Withdrawals, locks and prize credits of one wallet, each past its checks
    while nobody else is on the way, spend only what is there and lose no
    prize. -/
theorem spends_withinMeans {s : Db} {playerId : String} {wallet : PlayerWallet}
    (hfind : s.wallets.findOne playerId = some wallet) (hnonneg : 0 ≤ wallet.availableBalance)
    {moves : List (Move SpendCall)}
    (hamounts : ∀ call ∈ moves.filterMap Move.started, 0 < call.amount)
    (halone : Along (move (SpendCall.program playerId))
      (fun m pool _ _ => spendsAlone playerId m pool = true) moves ⟨s, []⟩)
    (hreturned : ∀ thread ∈ (after (move (SpendCall.program playerId)) moves ⟨s, []⟩).threads,
      thread.rest.unfinished = false) :
    WithinMeans s (after (move (SpendCall.program playerId)) moves ⟨s, []⟩).store playerId := by
  obtain rfl : wallet.playerId = playerId := Table.key_of_findOne hfind
  have hbegin : SpendLog wallet s.walletTxs [] s := by
    refine ⟨fun _ hmem => absurd hmem List.not_mem_nil, [], wallet, ?_, hfind, rfl, hnonneg, rfl⟩
    rw [List.append_nil]
  have hturns : Along (move (SpendCall.program wallet.playerId))
      (fun m pool _ _ => SpendsInTurn wallet.playerId m pool) moves ⟨s, []⟩ :=
    along_mono (fun _ _ _ _ h => ⟨h.1, h.2⟩) (along_and halone (along_started hamounts))
  have hlog := serial_quiet (serial_after (spend_law wallet s.walletTxs)
    (serial_nil trivial hbegin) hturns) hreturned
  exact hlog.accounted.withinMeans hfind

/-- A player with five million. -/
def fundedWallet : Db := Db.empty.after (Run.calmly (fundPlayers ["a"] 5000000))

/-- The pool of the witness after the moves. -/
def spendPool (moves : List (Move SpendCall)) : SpendPool :=
  after (move (SpendCall.program "a")) moves ⟨fundedWallet, []⟩

/-- Two withdrawals of everything, both past their checks before either has
    written anything. -/
def hastyWithdrawals : List (Move SpendCall) :=
  [.start (.withdraw 5000000 0 DEFAULT_DAILY_WITHDRAWAL_LIMIT (.ok "first")),
    .start (.withdraw 5000000 0 DEFAULT_DAILY_WITHDRAWAL_LIMIT (.ok "second")),
    .access 0, .access 1, .access 0, .access 0, .access 0, .access 1, .access 1, .access 1]

/-- A prize credited while a lock is on its way. -/
def hastyLock : List (Move SpendCall) :=
  [.start (.lockFunds 1000000 (matchSource "m")), .start (.creditPrize 3000000 (matchSource "n")),
    .access 0, .access 1, .access 1, .access 1, .access 0, .access 0]

/-- Ten million are paid out of five, and a prize of three is gone. -/
theorem not_spends_withinMeans :
    (∀ thread ∈ (spendPool hastyWithdrawals).threads, thread.rest.unfinished = false) ∧
    ¬ WithinMeans fundedWallet (spendPool hastyWithdrawals).store "a" ∧
    (∀ thread ∈ (spendPool hastyLock).threads, thread.rest.unfinished = false) ∧
    ¬ WithinMeans fundedWallet (spendPool hastyLock).store "a" := by
  refine ⟨by decide +kernel, fun h => ?_, by decide +kernel, fun h => ?_⟩
  · -- Two withdrawals read the same balance.
    have hover : (fundedWallet.wallets.findOne "a").any (fun wallet =>
        wallet.availableBalance +
            won (fundedWallet.rowsSince (spendPool hastyWithdrawals).store) wallet <
          spent (fundedWallet.rowsSince (spendPool hastyWithdrawals).store) wallet) = true := by
      decide +kernel
    rcases (Option.any_eq_true ..).mp hover with ⟨wallet, hfind, hless⟩
    exact absurd (h.covered wallet hfind) (not_le.mpr (of_decide_eq_true hless))
  · -- A lock writes back the balance from before the credit.
    have hmissing : (fundedWallet.wallets.findOne "a").any (fun wallet =>
        ((spendPool hastyLock).store.wallets.findOne "a").any fun wallet' =>
          wallet'.availableBalance +
              spent (fundedWallet.rowsSince (spendPool hastyLock).store) wallet <
            wallet.availableBalance +
              won (fundedWallet.rowsSince (spendPool hastyLock).store) wallet) = true := by
      decide +kernel
    rcases (Option.any_eq_true ..).mp hmissing with ⟨wallet, hfind, hlater⟩
    rcases (Option.any_eq_true ..).mp hlater with ⟨wallet', hfind', hless⟩
    exact absurd (h.credited wallet wallet' hfind hfind') (not_le.mpr (of_decide_eq_true hless))

/-- The lock is let through, the prize is credited, and a withdrawal that is
    too large is turned away in between. -/
def patientMoves : List (Move SpendCall) :=
  [.start (.lockFunds 1000000 (matchSource "m")), .start (.creditPrize 3000000 (matchSource "n")),
    .start (.withdraw 6000000 0 DEFAULT_DAILY_WITHDRAWAL_LIMIT (.ok "signature")),
    .access 0, .access 0, .access 2, .access 0, .access 1, .access 1, .access 1]

theorem spends_withinMeans_patientMoves :
    WithinMeans fundedWallet
      (after (move (SpendCall.program "a")) patientMoves ⟨fundedWallet, []⟩).store "a" := by
  have hfunds : (fundedWallet.wallets.findOne "a").any (fun wallet =>
      0 ≤ wallet.availableBalance) = true := by decide +kernel
  rcases (Option.any_eq_true ..).mp hfunds with ⟨wallet, hfind, hnonneg⟩
  exact spends_withinMeans hfind (of_decide_eq_true hnonneg) (by decide) (by decide +kernel)
    (by decide +kernel)

end Esports

end SvmCourse
