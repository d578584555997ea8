import SvmCourse.Esports.Store

/-!
# Player Wallets

The wallet service. The four operations that move money and leave a record
(deposit, lock, unlock and prize credit) read the wallet, check it, write the
record and save the changed wallet, in that order. `moveFunds` is that shape
once, and each operation is `moveFunds` at its own check, record and write.
Deducting an entry fee leaves no record, and a withdrawal has a second phase
with its own error handler, so these two keep their own bodies.

The order matters when an access is refused: the record is there before the
balance is, so a refusal in between leaves a record of a movement that did
not happen. The `_ensures` lemmas say exactly that. Each one lists every
result and store an operation can end with, and in each the reason `C` for a
refusal is a parameter.

## Main definitions

* `getWallet`: Looking a wallet up.
* `moveFunds`: The shape of the recorded operations.
* `deposit`, `lockFunds`, `unlockFunds`, `creditPrize`: Its four instances.
* `deductEntryFee`: Handing a locked fee over.
* `withdraw`, `checkWithdrawalLimits`: Paying out, with limits and cooldown.
* `WithdrawRequest.passes`, `WithdrawRequest.paid`: The checks of a withdrawal
  and the wallet it leaves.
* `netDeposits`: What the wallet log says players brought in.

## Theorems

* `moveFunds_ensures`: How a recorded operation can end.
* `withdraw_ends`: How a withdrawal can end.
* `deductEntryFee_ensures`, `withdraw_ensures`, `createWallet_ensures`: The
  same for the others, as far as the money goes.
-/

namespace SvmCourse

namespace Esports

open Core Core.Prog

/-- The lamports of one SOL. -/
def LAMPORTS_PER_SOL : Int := 1000000000

/-- The limit of a day for those without one of their own. -/
def DEFAULT_DAILY_WITHDRAWAL_LIMIT : Int := 10 * LAMPORTS_PER_SOL

/-- How long a player waits between withdrawals. -/
def WITHDRAWAL_COOLDOWN_MS : Int := 5 * 60 * 1000

/-- The milliseconds of a day. -/
def DAY_MS : Int := 24 * 60 * 60 * 1000

/-- The midnight that ends the day of `now`. -/
def getNextDayReset (now : Int) : Int := (now / DAY_MS + 1) * DAY_MS

/-- Find a wallet, or say that there is none. -/
def getWallet (playerId : String) : Service PlayerWallet := do
  let wallet ← walletRepository.findOne playerId
  demand wallet (.NotFoundException s!"Wallet not found for player {playerId}")

/-- `createMpcWallet` is the outcome of the call to the signing service. -/
structure CreatePlayerWalletRequest where
  playerId : String
  now : Int
  createMpcWallet : Except ServiceError Unit := .ok ()

/-- Create the wallet of a player who has none. -/
def createWallet (request : CreatePlayerWalletRequest) : Service PlayerWallet := do
  let existing ← walletRepository.findOne request.playerId
  require existing.isNone
    (.BadRequestException s!"Wallet already exists for player {request.playerId}")
  -- The key is made by the MPC service, which may fail.
  compute request.createMpcWallet
  walletRepository.insert fun id =>
    { id := id
      playerId := request.playerId
      availableBalance := 0
      lockedBalance := 0
      totalDeposited := 0
      totalWithdrawn := 0
      totalWinnings := 0
      totalEntryFees := 0
      status := .ACTIVE
      dailyWithdrawalAmount := 0
      dailyWithdrawalResetAt := some (getNextDayReset request.now)
      lastWithdrawalAt := none }

/-- The balance as it is shown: available, locked, and both. -/
def getBalance (playerId : String) : Service (Int × Int × Int) := do
  let wallet ← getWallet playerId
  pure (wallet.availableBalance, wallet.lockedBalance, wallet.getTotalBalance)

/-! ### Recorded operations -/

/-- Read the wallet, refuse unless `allowed`, write the record, then write the
    changed wallet. -/
def moveFunds (playerId : String) (allowed : PlayerWallet → Bool) (refusal : ServiceError)
    (record : PlayerWallet → WalletTransaction) (write : PlayerWallet → Db → Db) :
    Service WalletTransaction := do
  let wallet ← getWallet playerId
  require (allowed wallet) refusal
  let _ ← txRepository.insert (record wallet)
  query fun db => ((), write wallet db)
  pure (record wallet)

/-- Saving a wallet, as a change of the store. -/
def Db.withWallet (db : Db) (wallet : PlayerWallet) : Db :=
  { db with wallets := db.wallets.save wallet }

/-- What a caller asks for when money is deposited. -/
structure DepositRequest where
  playerId : String
  amount : Int
  signature : String

/-- Deposit money into an active wallet. -/
def deposit (request : DepositRequest) : Service WalletTransaction :=
  moveFunds request.playerId PlayerWallet.isActive
    (.BadRequestException s!"Wallet for player {request.playerId} is not active")
    (fun wallet =>
      { walletId := wallet.id
        type := .DEPOSIT
        amount := request.amount
        signature := some request.signature
        status := .COMPLETED })
    -- The record is stored before the wallet.
    fun wallet db => db.withWallet
      { wallet with
        availableBalance := wallet.availableBalance + request.amount
        totalDeposited := wallet.totalDeposited + request.amount }

/-- Also the request of `unlockFunds`, which has the same fields. -/
structure LockFundsRequest where
  playerId : String
  amount : Int
  reference : SourceId

/-- Lock money that is available. -/
def lockFunds (request : LockFundsRequest) : Service WalletTransaction :=
  moveFunds request.playerId (fun wallet => wallet.canLock request.amount)
    (.BadRequestException "Insufficient available balance to lock")
    (fun wallet =>
      { walletId := wallet.id
        type := .ENTRY_FEE
        amount := request.amount
        reference := some request.reference
        status := .COMPLETED })
    fun wallet db => db.withWallet
      { wallet with
        availableBalance := wallet.availableBalance - request.amount
        lockedBalance := wallet.lockedBalance + request.amount
        -- Counted here, and not taken back when the funds are unlocked.
        totalEntryFees := wallet.totalEntryFees + request.amount }

/-- Unlock money that is locked. -/
def unlockFunds (request : LockFundsRequest) : Service WalletTransaction :=
  moveFunds request.playerId (fun wallet => request.amount ≤ wallet.lockedBalance)
    (.BadRequestException "Insufficient locked balance to unlock")
    (fun wallet =>
      { walletId := wallet.id
        type := .REFUND
        amount := request.amount
        reference := some request.reference
        status := .COMPLETED })
    fun wallet db => db.withWallet
      { wallet with
        lockedBalance := wallet.lockedBalance - request.amount
        availableBalance := wallet.availableBalance + request.amount }

/-- The only operation without a check, and the only write that is noted in
    `credited`. -/
def creditPrize (playerId : String) (amount : Int) (reference : SourceId) :
    Service WalletTransaction :=
  -- A prize is credited to any wallet, so the refusal is never raised.
  moveFunds playerId (fun _ => true) (.BadRequestException "")
    (fun wallet =>
      { walletId := wallet.id
        type := .PRIZE_WIN
        amount := amount
        reference := some reference
        status := .COMPLETED })
    fun wallet db =>
      { db.withWallet
          { wallet with
            availableBalance := wallet.availableBalance + amount
            totalWinnings := wallet.totalWinnings + amount } with
        credited := db.credited ++ [(reference, amount)] }

/-! ### Operations of their own shape -/

/-- Take an entry fee out of what is locked. -/
def deductEntryFee (playerId : String) (amount : Int) : Service Unit := do
  let wallet ← getWallet playerId
  require (amount ≤ wallet.lockedBalance) (.BadRequestException "Insufficient locked balance")
  walletRepository.save { wallet with lockedBalance := wallet.lockedBalance - amount }

/-- The instant of the call, the limit the environment configures and the
    outcome of the signing call come with the request. -/
structure WithdrawRequest where
  playerId : String
  amount : Int
  now : Int
  dailyLimit : Int := DEFAULT_DAILY_WITHDRAWAL_LIMIT
  signTransaction : Except ServiceError String

/-- The wallet once its daily amount is up to date. -/
def resetDaily (wallet : PlayerWallet) (now : Int) : PlayerWallet :=
  { wallet with
    dailyWithdrawalAmount := 0
    dailyWithdrawalResetAt := some (getNextDayReset now) }

/-- The day of the last reset is over. -/
def dailyResetDue (wallet : PlayerWallet) (now : Int) : Bool :=
  match wallet.dailyWithdrawalResetAt with
  | some resetAt => resetAt < now
  | none => false

/-- Ends with the wallet as the check leaves it in memory. -/
def checkWithdrawalLimits (wallet : PlayerWallet) (request : WithdrawRequest) :
    Service PlayerWallet :=
  let check (current : PlayerWallet) : Service PlayerWallet := do
    require (current.dailyWithdrawalAmount + request.amount ≤ request.dailyLimit)
      (.BadRequestException (s!"Withdrawal would exceed daily limit. Current: " ++
        s!"{current.dailyWithdrawalAmount}, Requested: {request.amount}, " ++
        s!"Limit: {request.dailyLimit}"))
    pure current
  if dailyResetDue wallet request.now then do
    -- A new day begins, which is saved even if the limit is exceeded afterwards.
    walletRepository.save (resetDaily wallet request.now)
    check (resetDaily wallet request.now)
  else check wallet

/-- The handler of a withdrawal that failed after its record was written. -/
def failWithdrawal (id : Nat) (tx : WalletTransaction) (error : ServiceError) : Service Unit :=
  txRepository.save id { tx with status := .FAILED, failureReason := some error.message }

/-- Refuse a withdrawal too soon after the last one. -/
def checkCooldown (wallet : PlayerWallet) (now : Int) : Service Unit :=
  match wallet.lastWithdrawalAt with
  | some last =>
    -- The remaining time is rounded up to full seconds.
    require (WITHDRAWAL_COOLDOWN_MS ≤ now - last) (.BadRequestException
      (s!"Withdrawal cooldown active. Please wait " ++
        s!"{(WITHDRAWAL_COOLDOWN_MS - (now - last) + 999) / 1000} seconds"))
  | none => pure ()

/-- Withdraw money: check the limits, sign the transaction, and take it from the
    wallet. -/
def withdraw (request : WithdrawRequest) : Service WalletTransaction := do
  let stored ← getWallet request.playerId
  require stored.isActive
    (.BadRequestException s!"Wallet for player {request.playerId} is not active")
  require (stored.canWithdraw request.amount)
    (.BadRequestException "Insufficient available balance")
  let wallet ← checkWithdrawalLimits stored request
  checkCooldown wallet request.now
  let tx : WalletTransaction :=
    { walletId := wallet.id
      type := .WITHDRAWAL
      amount := request.amount
      status := .PROCESSING }
  let id ← txRepository.insert tx
  -- The handler sees the record as it stood when the exception was thrown:
  -- unsigned while signing, signed and completed afterwards.
  let signature ← (compute request.signTransaction).onError (failWithdrawal id tx)
  let signed : WalletTransaction := { tx with signature := some signature, status := .COMPLETED }
  let settle : Service Unit := do
    txRepository.save id signed
    walletRepository.save
      { wallet with
        availableBalance := wallet.availableBalance - request.amount
        totalWithdrawn := wallet.totalWithdrawn + request.amount
        dailyWithdrawalAmount := wallet.dailyWithdrawalAmount + request.amount
        lastWithdrawalAt := some request.now }
  settle.onError (failWithdrawal id signed)
  pure signed

/-! ### The checks and the result of a withdrawal -/

/-- The wallet as the limit check leaves it in memory. -/
def PlayerWallet.current (wallet : PlayerWallet) (now : Int) : PlayerWallet :=
  if dailyResetDue wallet now then resetDaily wallet now else wallet

/-- All checks of a withdrawal, on the wallet as it is stored. -/
def WithdrawRequest.passes (request : WithdrawRequest) (wallet : PlayerWallet) : Bool :=
  wallet.canWithdraw request.amount &&
    (wallet.current request.now).dailyWithdrawalAmount + request.amount ≤ request.dailyLimit &&
    wallet.lastWithdrawalAt.all fun last => WITHDRAWAL_COOLDOWN_MS ≤ request.now - last

/-- The wallet once a withdrawal is booked. -/
def WithdrawRequest.paid (request : WithdrawRequest) (wallet : PlayerWallet) : PlayerWallet :=
  { wallet.current request.now with
    availableBalance := wallet.availableBalance - request.amount
    totalWithdrawn := wallet.totalWithdrawn + request.amount
    dailyWithdrawalAmount :=
      (wallet.current request.now).dailyWithdrawalAmount + request.amount
    lastWithdrawalAt := some request.now }

/-! ### The wallet log -/

/-- What a record says players brought in: a deposit, or less a withdrawal
    that is completed. -/
def WalletTransaction.netAmount (tx : WalletTransaction) : Int :=
  if tx.type = .DEPOSIT then tx.amount
  else if tx.type = .WITHDRAWAL ∧ tx.status = .COMPLETED then -tx.amount
  else 0

/-- What the rows say was put in. -/
def netDeposits (txs : List WalletTransaction) : Int :=
  (txs.map WalletTransaction.netAmount).sum

theorem netDeposits_append (txs : List WalletTransaction) (tx : WalletTransaction) :
    netDeposits (txs ++ [tx]) = netDeposits txs + tx.netAmount := by
  simp only [netDeposits, List.map_append, List.sum_append, List.map_singleton,
    List.sum_singleton]

/-! ### How the operations end -/

section Specifications

variable {C : Prop}

theorem findOneWallet_ensures (playerId : String) (s : Db) :
    (walletRepository.findOne playerId).Ensures C s fun r t =>
      t = s ∧ match r with
        | .ok found => s.wallets.findOne playerId = found
        | .error _ => C :=
  ensures_perform ⟨rfl, rfl⟩ fun hc => ⟨rfl, hc⟩

theorem getWallet_ensures (playerId : String) (s : Db) :
    (getWallet playerId).Ensures C s fun r t =>
      t = s ∧ match r with
        | .ok wallet => s.wallets.findOne playerId = some wallet
        | .error _ => C ∨ s.wallets.findOne playerId = none := by
  unfold getWallet
  refine ensures_bind (ensures_mono (findOneWallet_ensures playerId s) fun r t h => ?_)
  rcases h with ⟨rfl, hr⟩
  cases r with
  | ok found =>
      refine ensures_demand (fun wallet hw => ?_) (fun hnone => ?_)
      · exact ⟨rfl, hr.trans hw⟩
      · exact ⟨rfl, Or.inr (hr.trans hnone)⟩
  | error e => exact ⟨rfl, Or.inl hr⟩

/-- A recorded operation ends with both its writes done, or with none, or,
    when the second write was refused, with the record alone. -/
theorem moveFunds_ensures (playerId : String) (allowed : PlayerWallet → Bool)
    (refusal : ServiceError) (record : PlayerWallet → WalletTransaction)
    (write : PlayerWallet → Db → Db) (s : Db) :
    (moveFunds playerId allowed refusal record write).Ensures C s fun r t => match r with
      | .ok tx => ∃ wallet, s.wallets.findOne playerId = some wallet ∧ allowed wallet = true ∧
          tx = record wallet ∧
          t = write wallet { s with walletTxs := s.walletTxs ++ [record wallet] }
      | .error _ =>
          (t = s ∨ C ∧ ∃ wallet, t = { s with walletTxs := s.walletTxs ++ [record wallet] }) ∧
          (C ∨ s.wallets.findOne playerId = none ∨
            ∃ wallet, s.wallets.findOne playerId = some wallet ∧ allowed wallet = false) := by
  unfold moveFunds
  refine ensures_bind (ensures_mono (getWallet_ensures playerId s) fun r t h => ?_)
  rcases h with ⟨rfl, hr⟩
  cases r with
  | error e =>
      rcases hr with hc | hnone
      · exact ⟨Or.inl rfl, Or.inl hc⟩
      · exact ⟨Or.inl rfl, Or.inr (Or.inl hnone)⟩
  | ok wallet =>
      refine ensures_bind (ensures_require (fun hok => ?_) (fun hno => ?_))
      · -- The record is written first, and then the wallet.
        refine ensures_bind (ensures_perform ?_ fun hc => ⟨Or.inl rfl, Or.inl hc⟩)
        refine ensures_bind (ensures_perform ?_ fun hc => ?_)
        · exact ⟨wallet, hr, hok, rfl, rfl⟩
        · exact ⟨Or.inr ⟨hc, wallet, rfl⟩, Or.inl hc⟩
      · exact ⟨Or.inl rfl, Or.inr (Or.inr ⟨wallet, hr, hno⟩)⟩

/-- Without a refused write a recorded operation changes nothing when it raises,
    and otherwise writes its row and its wallet. -/
theorem moveFunds_calm {playerId : String} {allowed : PlayerWallet → Bool}
    {refusal : ServiceError} {record : PlayerWallet → WalletTransaction}
    {write : PlayerWallet → Db → Db} {s : Db}
    {Q : Except ServiceError WalletTransaction → Db → Prop} (herror : ∀ e, Q (.error e) s)
    (hok : ∀ wallet, s.wallets.findOne playerId = some wallet → allowed wallet = true →
      Q (.ok (record wallet)) (write wallet { s with
        walletTxs := s.walletTxs ++ [record wallet] })) :
    (moveFunds playerId allowed refusal record write).Ensures False s Q := by
  refine ensures_mono (moveFunds_ensures ..) fun r t ht => ?_
  cases r with
  | error e =>
      rcases ht.1 with rfl | ⟨hfalse, -⟩
      · exact herror e
      · exact hfalse.elim
  | ok tx =>
      rcases ht with ⟨wallet, hfind, hallowed, rfl, rfl⟩
      exact hok wallet hfind hallowed

theorem deductEntryFee_ensures (playerId : String) (amount : Int) (s : Db) :
    (deductEntryFee playerId amount).Ensures C s fun r t => match r with
      | .ok _ => ∃ wallet, s.wallets.findOne playerId = some wallet ∧
          amount ≤ wallet.lockedBalance ∧
          t = s.withWallet { wallet with lockedBalance := wallet.lockedBalance - amount }
      | .error _ => t = s ∧ (C ∨ s.wallets.findOne playerId = none ∨
          ∃ wallet, s.wallets.findOne playerId = some wallet ∧
            wallet.lockedBalance < amount) := by
  unfold deductEntryFee
  refine ensures_bind (ensures_mono (getWallet_ensures playerId s) fun r t h => ?_)
  rcases h with ⟨rfl, hr⟩
  cases r with
  | error e =>
      rcases hr with hc | hnone
      · exact ⟨rfl, Or.inl hc⟩
      · exact ⟨rfl, Or.inr (Or.inl hnone)⟩
  | ok wallet =>
      -- The fee is taken from what has been locked.
      refine ensures_bind (ensures_require (fun hok => ?_) (fun hno => ?_))
      · refine ensures_perform ?_ fun hc => ⟨rfl, Or.inl hc⟩
        exact ⟨wallet, hr, of_decide_eq_true hok, rfl⟩
      · exact ⟨rfl, Or.inr (Or.inr ⟨wallet, hr, not_le.mp (of_decide_eq_false hno)⟩)⟩

theorem createWallet_ensures (request : CreatePlayerWalletRequest) (s : Db) :
    (createWallet request).Ensures C s fun r t => match r with
      | .ok wallet => s.wallets.findOne request.playerId = none ∧
          wallet.playerId = request.playerId ∧ wallet.id = s.wallets.rows.length ∧
          wallet.availableBalance = 0 ∧ wallet.lockedBalance = 0 ∧ wallet.totalDeposited = 0 ∧
          wallet.totalWithdrawn = 0 ∧ wallet.totalWinnings = 0 ∧ wallet.totalEntryFees = 0 ∧
          t = s.withWallet wallet
      | .error _ => t = s := by
  unfold createWallet
  refine ensures_bind (ensures_mono (findOneWallet_ensures request.playerId s) fun r t h => ?_)
  rcases h with ⟨rfl, hr⟩
  cases r with
  | error e => rfl
  | ok existing =>
      refine ensures_bind (ensures_require (fun hok => ?_) (fun _ => rfl))
      refine ensures_bind (ensures_compute ?_)
      -- The wallet of the platform is made before the row is saved.
      cases request.createMpcWallet with
      | error e => exact rfl
      | ok u =>
          refine ensures_perform ?_ fun _ => rfl
          exact ⟨hr.trans (Option.isNone_iff_eq_none.mp hok), rfl, rfl, rfl, rfl, rfl, rfl, rfl,
            rfl, rfl⟩

/-- Two states of one wallet that hold the same money. -/
def sameMoney (wallet wallet' : PlayerWallet) : Prop :=
  wallet.playerId = wallet'.playerId ∧ wallet.availableBalance = wallet'.availableBalance ∧
    wallet.lockedBalance = wallet'.lockedBalance

/-- A reset changes the daily amount and its time, and nothing else. -/
theorem current_eq (wallet : PlayerWallet) (now : Int) : ∃ amount resetAt,
    wallet.current now = { wallet with
      dailyWithdrawalAmount := amount
      dailyWithdrawalResetAt := resetAt } := by
  unfold PlayerWallet.current
  by_cases hdue : dailyResetDue wallet now
  · rw [if_pos hdue]
    exact ⟨_, _, rfl⟩
  · rw [if_neg hdue]
    exact ⟨_, _, rfl⟩

theorem current_sameMoney (wallet : PlayerWallet) (now : Int) :
    sameMoney (wallet.current now) wallet := by
  rcases current_eq wallet now with ⟨amount, resetAt, hcurrent⟩
  rw [hcurrent]
  exact ⟨rfl, rfl, rfl⟩

/-- The limit check writes at most the reset of the daily amount. -/
theorem checkWithdrawalLimits_ensures (wallet : PlayerWallet) (request : WithdrawRequest)
    (s : Db) :
    (checkWithdrawalLimits wallet request).Ensures C s fun r t =>
      (t = s ∨ t = s.withWallet (wallet.current request.now)) ∧ match r with
        | .ok current => current = wallet.current request.now ∧
            current.dailyWithdrawalAmount + request.amount ≤ request.dailyLimit
        | .error _ => C ∨ request.dailyLimit <
            (wallet.current request.now).dailyWithdrawalAmount + request.amount := by
  unfold checkWithdrawalLimits
  -- A reset that is due is saved before the limit is checked.
  by_cases hdue : dailyResetDue wallet request.now
  · have hcurrent : wallet.current request.now = resetDaily wallet request.now := if_pos hdue
    rw [if_pos hdue, hcurrent]
    refine ensures_bind (ensures_perform ?_ fun hc => ⟨Or.inl rfl, Or.inl hc⟩)
    refine ensures_bind (ensures_require (fun hok => ?_) (fun hno => ?_))
    · exact ⟨Or.inr rfl, rfl, of_decide_eq_true hok⟩
    · exact ⟨Or.inr rfl, Or.inr (not_le.mp (of_decide_eq_false hno))⟩
  · have hcurrent : wallet.current request.now = wallet := if_neg hdue
    rw [if_neg hdue, hcurrent]
    refine ensures_bind (ensures_require (fun hok => ?_) (fun hno => ?_))
    · exact ⟨Or.inl rfl, rfl, of_decide_eq_true hok⟩
    · exact ⟨Or.inl rfl, Or.inr (not_le.mp (of_decide_eq_false hno))⟩

theorem checkCooldown_ensures (wallet : PlayerWallet) (now : Int) (s : Db) :
    (checkCooldown wallet now).Ensures C s fun r t => t = s ∧
      r.toBool = wallet.lastWithdrawalAt.all fun last => WITHDRAWAL_COOLDOWN_MS ≤ now - last := by
  unfold checkCooldown
  cases wallet.lastWithdrawalAt with
  | some last => exact ensures_require (fun hok => ⟨rfl, hok.symm⟩) (fun hno => ⟨rfl, hno.symm⟩)
  | none => exact ⟨rfl, rfl⟩

/-- The record a withdrawal leaves. -/
def WithdrawRequest.Records (request : WithdrawRequest) (wallet : PlayerWallet)
    (tx : WalletTransaction) : Prop :=
  tx.walletId = wallet.id ∧ tx.type = .WITHDRAWAL ∧ tx.amount = request.amount

/-- The checks of a withdrawal, one by one. -/
theorem passes_iff {request : WithdrawRequest} {wallet : PlayerWallet} :
    request.passes wallet = true ↔ wallet.canWithdraw request.amount = true ∧
      (wallet.current request.now).dailyWithdrawalAmount + request.amount ≤ request.dailyLimit ∧
      (wallet.lastWithdrawalAt.all fun last => WITHDRAWAL_COOLDOWN_MS ≤ request.now - last) =
        true := by
  unfold WithdrawRequest.passes
  rw [Bool.and_eq_true, Bool.and_eq_true, decide_eq_true_iff, and_assoc]

/-- What a withdrawal does when all its checks have passed. -/
def settleWithdrawal (request : WithdrawRequest) (wallet : PlayerWallet) :
    Service WalletTransaction := do
  let tx : WalletTransaction :=
    { walletId := wallet.id
      type := .WITHDRAWAL
      amount := request.amount
      status := .PROCESSING }
  let id ← txRepository.insert tx
  -- The row is stored as it is being processed, and then the transaction is signed.
  let signature ← (compute request.signTransaction).onError (failWithdrawal id tx)
  let signed : WalletTransaction := { tx with signature := some signature, status := .COMPLETED }
  let settle : Service Unit := do
    txRepository.save id signed
    walletRepository.save
      { wallet with
        availableBalance := wallet.availableBalance - request.amount
        totalWithdrawn := wallet.totalWithdrawn + request.amount
        dailyWithdrawalAmount := wallet.dailyWithdrawalAmount + request.amount
        lastWithdrawalAt := some request.now }
  -- A failure after the signature marks the row as failed, though it keeps the
  -- signature.
  settle.onError (failWithdrawal id signed)
  pure signed

/-- The wallet is charged over whichever of its two states is stored. -/
theorem withWallet_paid {request : WithdrawRequest} {wallet : PlayerWallet} {t u : Db}
    (hu : u = t ∨ u = t.withWallet (wallet.current request.now)) :
    u.withWallet { wallet.current request.now with
        availableBalance := (wallet.current request.now).availableBalance - request.amount
        totalWithdrawn := (wallet.current request.now).totalWithdrawn + request.amount
        dailyWithdrawalAmount :=
          (wallet.current request.now).dailyWithdrawalAmount + request.amount
        lastWithdrawalAt := some request.now } =
      t.withWallet (request.paid wallet) := by
  rcases current_eq wallet request.now with ⟨amount, resetAt, hcurrent⟩
  have hpaid : request.paid wallet = { wallet.current request.now with
      availableBalance := (wallet.current request.now).availableBalance - request.amount
      totalWithdrawn := (wallet.current request.now).totalWithdrawn + request.amount
      dailyWithdrawalAmount :=
        (wallet.current request.now).dailyWithdrawalAmount + request.amount
      lastWithdrawalAt := some request.now } := by
    unfold WithdrawRequest.paid
    rw [hcurrent]
  rw [← hpaid]
  rcases hu with rfl | rfl
  · rfl
  · -- The second save of a wallet writes over the first.
    simp only [Db.withWallet]
    rw [Table.save_save (by rw [hpaid])]

/-- The record of a withdrawal is written as the last row of the log, and ends
    completed with the wallet charged. Otherwise it ends failed, unless its own
    handler was refused. -/
theorem settleWithdrawal_ends {request : WithdrawRequest} {wallet : PlayerWallet} {t u : Db}
    (hu : u = t ∨ u = t.withWallet (wallet.current request.now)) :
    (settleWithdrawal request (wallet.current request.now)).Ensures C u fun r v => match r with
      | .ok tx => request.signTransaction.toBool = true ∧ request.Records wallet tx ∧
          tx.status = .COMPLETED ∧
          v = { t.withWallet (request.paid wallet) with walletTxs := t.walletTxs ++ [tx] }
      | .error _ =>
          (v = u ∨ ∃ tx, request.Records wallet tx ∧ (C ∨ tx.status = .FAILED) ∧
            v = { u with walletTxs := t.walletTxs ++ [tx] }) ∧
          (C ∨ request.signTransaction.toBool = false) := by
  have hid : (wallet.current request.now).id = wallet.id := by
    rcases current_eq wallet request.now with ⟨amount, resetAt, hcurrent⟩
    rw [hcurrent]
  have htxs : u.walletTxs = t.walletTxs := by rcases hu with rfl | rfl <;> rfl
  -- The record is the last row of the log, so saving it under its id replaces
  -- that row.
  have hset : ∀ a b : WalletTransaction,
      (t.walletTxs ++ [a]).set t.walletTxs.length b = t.walletTxs ++ [b] := by
    intro a b
    rw [List.set_append_right _ _ (le_refl _), Nat.sub_self, List.set_cons_zero]
  have hlate : ∀ tx : WalletTransaction, tx.walletId = (wallet.current request.now).id →
      tx.type = .WITHDRAWAL → tx.amount = request.amount → (C ∨ tx.status = .FAILED) →
      { u with walletTxs := t.walletTxs ++ [tx] } = u ∨ ∃ tx', request.Records wallet tx' ∧
        (C ∨ tx'.status = .FAILED) ∧ { u with walletTxs := t.walletTxs ++ [tx] } =
          { u with walletTxs := t.walletTxs ++ [tx'] } :=
    fun tx hwallet htype hamount hstatus =>
      Or.inr ⟨tx, ⟨hwallet.trans hid, htype, hamount⟩, hstatus, rfl⟩
  unfold settleWithdrawal
  refine ensures_bind (ensures_perform ?_ fun hc => ⟨Or.inl rfl, Or.inl hc⟩)
  refine ensures_bind (ensures_onError (ensures_compute ?_))
  cases hsign : request.signTransaction with
  | error e =>
      refine ensures_perform ?_ fun hc => ?_
      · simp only [htxs, hset]
        exact ⟨hlate _ rfl rfl rfl (Or.inr rfl), Or.inr rfl⟩
      · simp only [htxs]
        exact ⟨hlate _ rfl rfl rfl (Or.inl hc), Or.inl hc⟩
  | ok signature =>
  refine ensures_bind (ensures_onError (ensures_bind (ensures_perform ?_ fun hc => ?_)))
  · refine ensures_perform ?_ fun hc => ?_
    · refine ⟨rfl, ⟨hid, rfl, rfl⟩, rfl, ?_⟩
      have hpaid (tx : WalletTransaction) :=
        congrArg (fun db : Db => { db with walletTxs := t.walletTxs ++ [tx] }) (withWallet_paid hu)
      simp only [htxs, hset]
      exact hpaid _
    · refine ensures_perform ?_ fun _ => ?_
      · simp only [htxs, hset]
        exact ⟨hlate _ rfl rfl rfl (Or.inl hc), Or.inl hc⟩
      · simp only [htxs, hset]
        exact ⟨hlate _ rfl rfl rfl (Or.inl hc), Or.inl hc⟩
  · refine ensures_perform ?_ fun _ => ?_
    · simp only [htxs, hset]
      exact ⟨hlate _ rfl rfl rfl (Or.inl hc), Or.inl hc⟩
    · simp only [htxs]
      exact ⟨hlate _ rfl rfl rfl (Or.inl hc), Or.inl hc⟩

/-- Everything a withdrawal can end with. Without refusals a record that was
    written is completed and paid, or failed and not paid. -/
theorem withdraw_ends (request : WithdrawRequest) (s : Db) :
    (withdraw request).Ensures C s fun r t => match r with
      | .ok tx => ∃ wallet, s.wallets.findOne request.playerId = some wallet ∧
          request.passes wallet = true ∧ request.signTransaction.toBool = true ∧
          request.Records wallet tx ∧ tx.status = .COMPLETED ∧
          t = { s.withWallet (request.paid wallet) with walletTxs := s.walletTxs ++ [tx] }
      | .error _ =>
          (t = s ∨ ∃ wallet, s.wallets.findOne request.playerId = some wallet ∧
            ∃ u, (u = s ∨ u = s.withWallet (wallet.current request.now)) ∧
              (t = u ∨ ∃ tx, request.Records wallet tx ∧ (C ∨ tx.status = .FAILED) ∧
                t = { u with walletTxs := s.walletTxs ++ [tx] })) ∧
          (C ∨ ∀ wallet, s.wallets.findOne request.playerId = some wallet →
            request.passes wallet = true → request.signTransaction.toBool = false) := by
  unfold withdraw
  refine ensures_bind (ensures_mono (getWallet_ensures request.playerId s) fun r t h => ?_)
  rcases h with ⟨rfl, hr⟩
  cases r with
  | error e =>
      refine ⟨Or.inl rfl, hr.imp_right fun hnone wallet hfind => ?_⟩
      exact nomatch hnone.symm.trans hfind
  | ok wallet =>
  -- A check that fails is a check of `passes`.
  have hfails : ¬request.passes wallet = true → ∀ w, t.wallets.findOne request.playerId = some w →
      request.passes w = true → request.signTransaction.toBool = false := by
    intro hno w hw hpass
    obtain rfl : w = wallet := Option.some.inj (hw.symm.trans hr)
    exact absurd hpass hno
  refine ensures_bind (ensures_require (fun _ => ?_) (fun hno => ⟨Or.inl rfl, Or.inr ?_⟩))
  swap
  · refine hfails fun hpass => ?_
    have hcan := (passes_iff.mp hpass).1
    unfold PlayerWallet.canWithdraw at hcan
    simp only [hno, Bool.false_and, Bool.false_eq_true] at hcan
  refine ensures_bind (ensures_require (fun hcan => ?_) (fun hno => ⟨Or.inl rfl, Or.inr ?_⟩))
  swap
  · exact hfails fun hpass => Bool.false_ne_true (hno.symm.trans (passes_iff.mp hpass).1)
  refine ensures_bind (ensures_mono (checkWithdrawalLimits_ensures wallet request t) ?_)
  intro r u hu
  cases r with
  | error e =>
      refine ⟨Or.inr ⟨wallet, hr, u, hu.1, Or.inl rfl⟩, hu.2.imp_right fun hover => ?_⟩
      exact hfails fun hpass => not_le.mpr hover (passes_iff.mp hpass).2.1
  | ok v =>
  rcases hu with ⟨hu, rfl, hlimit⟩
  refine ensures_bind (ensures_mono (checkCooldown_ensures _ request.now u) ?_)
  intro r u' hcool
  rcases hcool with ⟨rfl, hcool⟩
  have hlast : (wallet.current request.now).lastWithdrawalAt = wallet.lastWithdrawalAt := by
    rcases current_eq wallet request.now with ⟨amount, resetAt, hcurrent⟩
    rw [hcurrent]
  rw [hlast] at hcool
  cases r with
  | error e =>
      refine ⟨Or.inr ⟨wallet, hr, u', hu, Or.inl rfl⟩, Or.inr (hfails fun hpass => ?_)⟩
      exact Bool.false_ne_true (hcool.trans (passes_iff.mp hpass).2.2)
  | ok _ =>
  refine ensures_mono (settleWithdrawal_ends hu) fun r v hv => ?_
  cases r with
  | ok tx => exact ⟨wallet, hr, passes_iff.mpr ⟨hcan, hlimit, hcool.symm⟩, hv⟩
  | error e =>
      exact ⟨Or.inr ⟨wallet, hr, u', hu, hv.1⟩, hv.2.imp_right fun hunsigned _ _ _ => hunsigned⟩

/-- The store after a withdrawal that did not go through: the wallet holds the
    same money, and the record, if it was written, is a withdrawal that is not
    completed unless its own handler was refused. -/
def WithdrawalRefused (C : Prop) (s t : Db) (wallet : PlayerWallet) : Prop :=
  ∃ current, sameMoney current wallet ∧
    ∃ u, (u = s ∨ u = s.withWallet current) ∧
      (t = u ∨ ∃ tx : WalletTransaction, tx.type = .WITHDRAWAL ∧ (tx.status = .COMPLETED → C) ∧
        t = { u with walletTxs := s.walletTxs ++ [tx] })

theorem withdraw_ensures (request : WithdrawRequest) (s : Db) :
    (withdraw request).Ensures C s fun r t => match r with
      | .ok tx => ∃ wallet paid, s.wallets.findOne request.playerId = some wallet ∧
          paid.playerId = wallet.playerId ∧
          paid.availableBalance = wallet.availableBalance - request.amount ∧
          paid.lockedBalance = wallet.lockedBalance ∧
          tx.type = .WITHDRAWAL ∧ tx.status = .COMPLETED ∧ tx.amount = request.amount ∧
          t = { s.withWallet paid with walletTxs := s.walletTxs ++ [tx] }
      | .error _ => t = s ∨ ∃ wallet, s.wallets.findOne request.playerId = some wallet ∧
          WithdrawalRefused C s t wallet := by
  refine ensures_mono (withdraw_ends request s) fun r t ht => ?_
  cases r with
  | ok tx =>
      rcases ht with ⟨wallet, hfind, -, -, hrecords, hstatus, rfl⟩
      have hsame := current_sameMoney wallet request.now
      exact ⟨wallet, request.paid wallet, hfind, hsame.1, rfl, hsame.2.2, hrecords.2.1, hstatus,
        hrecords.2.2, rfl⟩
  | error e =>
      -- A failed withdrawal may have saved the limits and a row that is not
      -- completed.
      refine ht.1.imp_right fun hrefused => ?_
      rcases hrefused with ⟨wallet, hfind, u, hu, ht⟩
      have hsame := current_sameMoney wallet request.now
      refine ⟨wallet, hfind, wallet.current request.now, hsame, u, hu, ht.imp_right ?_⟩
      rintro ⟨tx, hrecords, hstatus, rfl⟩
      refine ⟨tx, hrecords.2.1, fun hcompleted => hstatus.resolve_right ?_, rfl⟩
      rw [hcompleted]
      exact nofun

end Specifications

/-! ### What ignores wallets -/

/-- The property does not look at wallets. -/
def IgnoresWallets (I : Db → Prop) : Prop :=
  ∀ s wallets walletTxs credited, I s →
    I { s with wallets := wallets, walletTxs := walletTxs, credited := credited }

section Upholds

variable {I : Db → Prop}

theorem getWallet_upholds (playerId : String) :
    (getWallet playerId).Upholds I fun _ => True :=
  upholds_bind (R := fun _ => True) (upholds_perform fun _ hs => ⟨hs, trivial⟩) fun _ _ =>
    upholds_demand fun _ _ => trivial

theorem insertTx_upholds (hI : IgnoresWallets I) (tx : WalletTransaction) :
    (txRepository.insert tx).Upholds I fun _ => True :=
  upholds_perform fun s hs => ⟨hI s s.wallets _ s.credited hs, trivial⟩

theorem saveTx_upholds (hI : IgnoresWallets I) (id : Nat) (tx : WalletTransaction) :
    (txRepository.save id tx).Upholds I fun _ => True :=
  upholds_perform fun s hs => ⟨hI s s.wallets _ s.credited hs, trivial⟩

theorem saveWallet_upholds (hI : IgnoresWallets I) (wallet : PlayerWallet) :
    (walletRepository.save wallet).Upholds I fun _ => True :=
  upholds_perform fun s hs => ⟨hI s _ s.walletTxs s.credited hs, trivial⟩

theorem moveFunds_upholds (hI : IgnoresWallets I) (playerId : String)
    (allowed : PlayerWallet → Bool) (refusal : ServiceError)
    (record : PlayerWallet → WalletTransaction) (write : PlayerWallet → Db → Db)
    (hwrite : ∀ wallet s, I s → I (write wallet s)) :
    (moveFunds playerId allowed refusal record write).Upholds I fun _ => True := by
  refine upholds_bind (getWallet_upholds playerId) fun wallet _ => ?_
  refine upholds_bind (R := fun _ => True) (upholds_require fun _ => trivial) fun _ _ => ?_
  refine upholds_bind (insertTx_upholds hI _) fun _ _ => ?_
  exact upholds_bind (R := fun _ => True)
    (upholds_perform fun s hs => ⟨hwrite wallet s hs, trivial⟩)
    fun _ _ => trivial

theorem deposit_upholds (hI : IgnoresWallets I) (request : DepositRequest) :
    (deposit request).Upholds I fun _ => True :=
  moveFunds_upholds hI _ _ _ _ _ fun _ s hs => hI s _ s.walletTxs s.credited hs

theorem lockFunds_upholds (hI : IgnoresWallets I) (request : LockFundsRequest) :
    (lockFunds request).Upholds I fun _ => True :=
  moveFunds_upholds hI _ _ _ _ _ fun _ s hs => hI s _ s.walletTxs s.credited hs

theorem unlockFunds_upholds (hI : IgnoresWallets I) (request : LockFundsRequest) :
    (unlockFunds request).Upholds I fun _ => True :=
  moveFunds_upholds hI _ _ _ _ _ fun _ s hs => hI s _ s.walletTxs s.credited hs

theorem creditPrize_upholds (hI : IgnoresWallets I) (playerId : String) (amount : Int)
    (reference : SourceId) : (creditPrize playerId amount reference).Upholds I fun _ => True :=
  moveFunds_upholds hI _ _ _ _ _ fun _ s hs => hI s _ s.walletTxs _ hs

theorem deductEntryFee_upholds (hI : IgnoresWallets I) (playerId : String) (amount : Int) :
    (deductEntryFee playerId amount).Upholds I fun _ => True := by
  refine upholds_bind (getWallet_upholds playerId) fun wallet _ => ?_
  exact upholds_bind (R := fun _ => True) (upholds_require fun _ => trivial) fun _ _ =>
    saveWallet_upholds hI _

theorem createWallet_upholds (hI : IgnoresWallets I) (request : CreatePlayerWalletRequest) :
    (createWallet request).Upholds I fun _ => True := by
  refine upholds_bind (R := fun _ => True) (upholds_perform fun s hs => ⟨hs, trivial⟩)
    fun existing _ => ?_
  refine upholds_bind (R := fun _ => True) (upholds_require fun _ => trivial) fun _ _ => ?_
  refine upholds_bind (R := fun _ => True) (upholds_compute fun _ _ => trivial) fun _ _ => ?_
  exact upholds_perform fun s hs => ⟨hI s _ s.walletTxs s.credited hs, trivial⟩

theorem checkWithdrawalLimits_upholds (hI : IgnoresWallets I) (wallet : PlayerWallet)
    (request : WithdrawRequest) :
    (checkWithdrawalLimits wallet request).Upholds I fun _ => True := by
  unfold checkWithdrawalLimits
  split
  · refine upholds_bind (saveWallet_upholds hI _) fun _ _ => ?_
    exact upholds_bind (R := fun _ => True) (upholds_require fun _ => trivial) fun _ _ => trivial
  · exact upholds_bind (R := fun _ => True) (upholds_require fun _ => trivial) fun _ _ => trivial

theorem withdraw_upholds (hI : IgnoresWallets I) (request : WithdrawRequest) :
    (withdraw request).Upholds I fun _ => True := by
  refine upholds_bind (getWallet_upholds _) fun stored _ => ?_
  refine upholds_bind (R := fun _ => True) (upholds_require fun _ => trivial) fun _ _ => ?_
  refine upholds_bind (R := fun _ => True) (upholds_require fun _ => trivial) fun _ _ => ?_
  refine upholds_bind (checkWithdrawalLimits_upholds hI stored request) fun wallet _ => ?_
  refine upholds_bind (R := fun _ => True) ?_ fun _ _ => ?_
  · -- Every write is of the wallet or of its log.
    unfold checkCooldown
    split
    · exact upholds_require fun _ => trivial
    · exact trivial
  refine upholds_bind (insertTx_upholds hI _) fun id _ => ?_
  refine upholds_bind (R := fun _ => True) (upholds_onError (upholds_compute fun _ _ => trivial)
    fun _ => saveTx_upholds hI _ _) fun signature _ => ?_
  refine upholds_bind (R := fun _ => True) (upholds_onError ?_ fun _ => saveTx_upholds hI _ _)
    fun _ _ => trivial
  exact upholds_bind (saveTx_upholds hI _ _) fun _ _ => saveWallet_upholds hI _

end Upholds

end Esports

end SvmCourse
