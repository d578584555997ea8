import Mathlib.Data.List.Chain
import SvmCourse.Core.Machine
import SvmCourse.Esports.Accounts

/-!
# Withdrawal Limits

The daily limit and the cooldown over whole runs of the wallet service. The
wallet keeps the amount of the current day and the midnight that ends it, and
a withdrawal that comes later than that starts a new day. So the amount is the
sum of what was withdrawn since the last midnight, however many days nobody
withdrew anything, and whether the withdrawal that started the day went
through or not.

A withdrawal at the midnight itself is not later. It is counted in the day that
is over, and the next one finds the new day empty. Runs without such a
withdrawal keep the limit. The cooldown they all keep.

## Main definitions

* `history`: The completed withdrawals of a player, with their instants.
* `dayTotal`: What was withdrawn on one day.
* `Limited`: What the limits promise about a history.
* `WalletCall.OffReset`: The call does not withdraw at a stored midnight.
* `Metered`: The wallet agrees with the history.

## Theorems

* `metered_paid`: A withdrawal within the limits keeps them.
* `withdrawals_limited`: So does every run.
-/

namespace SvmCourse

namespace Esports

open Core Core.Prog Core.Machine

/-! ### Histories -/

/-- One call on the store, to its end. -/
def WalletCall.step (s : Db) (call : WalletCall) : Except ServiceError Unit × Db :=
  call.program.eval s

/-- The withdrawals of a player that a call completes: what it adds to the log,
    at the instant of the call. -/
def WalletCall.completes (playerId : String) (call : WalletCall) (s t : Db) : List (Int × Int) :=
  match call with
  | withdraw request =>
    if request.playerId = playerId then
      ((t.walletTxs.drop s.walletTxs.length).filter fun tx =>
        tx.type = .WITHDRAWAL && tx.status = .COMPLETED).map fun tx => (request.now, tx.amount)
    else []
  | _ => []

/-- The completed withdrawals of a player along a run, in their order. -/
def history (playerId : String) : List WalletCall → Db → List (Int × Int)
  | [], _ => []
  | call :: calls, s =>
    call.completes playerId s (call.step s).2 ++ history playerId calls (call.step s).2

/-- What was withdrawn from one midnight to the next. -/
def dayTotal (withdrawals : List (Int × Int)) (day : Int) : Int :=
  ((withdrawals.filter fun w => w.1 / DAY_MS = day).map Prod.snd).sum

/-- No day exceeds the limit, and no two withdrawals in a row are closer than
    the cooldown. A limit below zero lets nothing through. -/
structure Limited (limit : Int) (withdrawals : List (Int × Int)) : Prop where
  daily : ∀ day, dayTotal withdrawals day ≤ max limit 0
  cooldown : withdrawals.IsChain fun w w' => WITHDRAWAL_COOLDOWN_MS ≤ w'.1 - w.1

/-- The clock a call for the player reads. -/
def WalletCall.clock (playerId : String) : WalletCall → Option Int
  | createWallet request => if request.playerId = playerId then some request.now else none
  | withdraw request => if request.playerId = playerId then some request.now else none
  | _ => none

/-- The player's withdrawals are made under the one configured limit. -/
def WalletCall.Within (playerId : String) (limit : Int) : WalletCall → Prop
  | withdraw request => request.playerId = playerId → request.dailyLimit = limit
  | _ => True

/-- The call does not complete a withdrawal of the player at the very instant
    the wallet notes for its next reset. -/
def WalletCall.OffReset (playerId : String) (call : WalletCall) (s : Db) : Prop :=
  match call with
  | withdraw request => request.playerId = playerId →
      ∀ wallet, s.wallets.findOne playerId = some wallet → request.passes wallet = true →
        request.signTransaction.toBool = true → wallet.dailyWithdrawalResetAt ≠ some request.now
  | _ => True

instance (playerId : String) (s : Db) :
    (call : WalletCall) → Decidable (call.OffReset playerId s)
  | .withdraw request => decidable_of_iff
      (request.playerId = playerId → ∀ wallet ∈ (s.wallets.findOne playerId).toList,
        request.passes wallet = true → request.signTransaction.toBool = true →
          wallet.dailyWithdrawalResetAt ≠ some request.now)
      (by simp only [Option.mem_toList]; rfl)
  | .createWallet _ | .deposit _ | .lockFunds _ | .unlockFunds _ | .creditPrize _ _ _
  | .deductEntryFee _ _ => isTrue trivial

/-! ### Days -/

section Days

variable {withdrawals : List (Int × Int)} {now amount day : Int}

theorem day_iff : now / DAY_MS = day ↔ day * DAY_MS ≤ now ∧ now < (day + 1) * DAY_MS := by
  unfold DAY_MS
  omega

theorem dayTotal_append_single :
    dayTotal (withdrawals ++ [(now, amount)]) day =
      dayTotal withdrawals day + if now / DAY_MS = day then amount else 0 := by
  unfold dayTotal
  rw [List.filter_append, List.map_append, List.sum_append]
  by_cases h : now / DAY_MS = day
  · simp [h]
  · simp [h]

theorem day_span (now : Int) :
    now / DAY_MS * DAY_MS ≤ now ∧ now < (now / DAY_MS + 1) * DAY_MS :=
  day_iff.mp rfl

/-- Nothing was withdrawn on a day that begins after the last withdrawal. -/
theorem dayTotal_later (h : ∀ w ∈ withdrawals, w.1 < day * DAY_MS) :
    dayTotal withdrawals day = 0 := by
  have hnone : (withdrawals.filter fun w => w.1 / DAY_MS = day) = [] := by
    refine List.filter_eq_nil_iff.mpr fun w hw hday => ?_
    have hfrom := (day_iff.mp (of_decide_eq_true hday)).1
    exact absurd (h w hw) (not_lt.mpr hfrom)
  unfold dayTotal
  rw [hnone]
  rfl

end Days

/-! ### The wallet and its history -/

/-- What a wallet notes about withdrawals. -/
def PlayerWallet.meters (wallet : PlayerWallet) : Int × Option Int × Option Int :=
  (wallet.dailyWithdrawalAmount, wallet.dailyWithdrawalResetAt, wallet.lastWithdrawalAt)

/-- The wallet notes the end of a day, the sum of the day and the last
    withdrawal. All withdrawals were before the end of the day, and the clock
    will not go back behind its beginning. -/
def Metered (clock : List Int) (withdrawals : List (Int × Int)) (wallet : PlayerWallet) : Prop :=
  ∃ day, wallet.meters =
      (dayTotal withdrawals day, some ((day + 1) * DAY_MS), withdrawals.getLast?.map Prod.fst) ∧
    (∀ w ∈ withdrawals, w.1 < (day + 1) * DAY_MS) ∧ ∀ now ∈ clock, day * DAY_MS ≤ now

section Meters

variable {withdrawals : List (Int × Int)} {clock : List Int} {wallet : PlayerWallet} {now : Int}
  {request : WithdrawRequest} {limit : Int}

theorem Metered.later {clock' : List Int} (h : Metered clock withdrawals wallet)
    (hclock : ∀ now ∈ clock', now ∈ clock) : Metered clock' withdrawals wallet := by
  rcases h with ⟨day, hmeters, hbefore, hnow⟩
  exact ⟨day, hmeters, hbefore, fun now hmem => hnow now (hclock now hmem)⟩

/-- Bringing the day up to date keeps the wallet in agreement. A call that is
    not at the end of the day is in the day that is then noted. -/
theorem metered_current (h : Metered (now :: clock) withdrawals wallet)
    (hclock : ∀ now' ∈ clock, now ≤ now') :
    Metered clock withdrawals (wallet.current now) ∧
      (wallet.dailyWithdrawalResetAt ≠ some now →
        (wallet.current now).meters = (dayTotal withdrawals (now / DAY_MS),
            some ((now / DAY_MS + 1) * DAY_MS), withdrawals.getLast?.map Prod.fst) ∧
          ∀ w ∈ withdrawals, w.1 < (now / DAY_MS + 1) * DAY_MS) := by
  rcases h with ⟨day, hmeters, hbefore, hnow⟩
  have hfrom := (day_span now).1
  have hfirst := hnow now List.mem_cons_self
  have hreset : wallet.dailyWithdrawalResetAt = some ((day + 1) * DAY_MS) :=
    congrArg (fun meters => meters.2.1) hmeters
  have hlast : wallet.lastWithdrawalAt = withdrawals.getLast?.map Prod.fst :=
    congrArg (fun meters => meters.2.2) hmeters
  unfold PlayerWallet.current dailyResetDue
  rw [hreset]
  by_cases hdue : (day + 1) * DAY_MS < now
  · -- A later day begins, and nothing was withdrawn on it.
    have hlater : ∀ w ∈ withdrawals, w.1 < now / DAY_MS * DAY_MS := by
      intro w hw
      have hw' := hbefore w hw
      unfold DAY_MS at hdue hw' ⊢
      omega
    have hnew : (resetDaily wallet now).meters = (dayTotal withdrawals (now / DAY_MS),
        some ((now / DAY_MS + 1) * DAY_MS), withdrawals.getLast?.map Prod.fst) := by
      rw [dayTotal_later hlater, ← hlast]
      rfl
    have hall : ∀ w ∈ withdrawals, w.1 < (now / DAY_MS + 1) * DAY_MS := by
      intro w hw
      have hw' := hlater w hw
      unfold DAY_MS at hw' ⊢
      omega
    rw [if_pos (decide_eq_true hdue)]
    exact ⟨⟨_, hnew, hall, fun now' hmem => hfrom.trans (hclock now' hmem)⟩, fun _ => ⟨hnew, hall⟩⟩
  · -- The day goes on, and off its end the call is in it.
    rw [if_neg (by simpa using hdue)]
    refine ⟨⟨day, hmeters, hbefore, fun now' hmem => hnow now' (List.mem_cons_of_mem _ hmem)⟩,
      fun hoff => ?_⟩
    have hne : (day + 1) * DAY_MS ≠ now := fun heq => hoff (congrArg some heq)
    have hsame : now / DAY_MS = day := day_iff.mpr ⟨hfirst, by omega⟩
    rw [hsame]
    exact ⟨hmeters, hbefore⟩

/-- A withdrawal within the limits, and not at the end of the day, keeps them. -/
theorem metered_paid (h : Metered (request.now :: clock) withdrawals wallet)
    (hclock : ∀ now' ∈ clock, request.now ≤ now') (hlimited : Limited limit withdrawals)
    (hlimit : request.dailyLimit = limit) (hpasses : request.passes wallet = true)
    (hoff : wallet.dailyWithdrawalResetAt ≠ some request.now) :
    Metered clock (withdrawals ++ [(request.now, request.amount)]) (request.paid wallet) ∧
      Limited limit (withdrawals ++ [(request.now, request.amount)]) := by
  rcases (metered_current h hclock).2 hoff with ⟨hcurrent, hbefore⟩
  rcases h with ⟨day, hmeters, -, -⟩
  have hlast : wallet.lastWithdrawalAt = withdrawals.getLast?.map Prod.fst :=
    congrArg (fun meters => meters.2.2) hmeters
  have hdaily : (wallet.current request.now).dailyWithdrawalAmount =
      dayTotal withdrawals (request.now / DAY_MS) := congrArg (fun meters => meters.1) hcurrent
  have hreset : (wallet.current request.now).dailyWithdrawalResetAt =
      some ((request.now / DAY_MS + 1) * DAY_MS) := congrArg (fun meters => meters.2.1) hcurrent
  have hspan := day_span request.now
  unfold WithdrawRequest.passes at hpasses
  simp only [Bool.and_eq_true, decide_eq_true_eq] at hpasses
  rcases hpasses with ⟨⟨-, hfits⟩, hcool⟩
  -- The amount the wallet notes is the sum of the day, so that the check is right.
  rw [hdaily, hlimit] at hfits
  refine ⟨⟨request.now / DAY_MS, ?_, fun w hw => ?_, fun now' hmem => ?_⟩, fun day' => ?_, ?_⟩
  · rw [dayTotal_append_single, if_pos rfl, List.getLast?_concat, Option.map_some]
    change (_, _, _) = _
    rw [← hdaily, ← hreset]
    rfl
  · rcases List.mem_append.mp hw with hold | hnew
    · exact hbefore w hold
    · rw [List.mem_singleton.mp hnew]
      exact hspan.2
  · exact hspan.1.trans (hclock now' hmem)
  · rw [dayTotal_append_single]
    by_cases hsame : request.now / DAY_MS = day'
    · rw [if_pos hsame, ← hsame]
      exact hfits.trans (le_max_left _ _)
    · rw [if_neg hsame, Int.add_zero]
      exact hlimited.daily day'
  · refine List.isChain_append.mpr ⟨hlimited.cooldown, List.isChain_singleton _, ?_⟩
    intro w hw w' hw'
    rw [hlast, hw] at hcool
    simp only [List.head?_cons, Option.mem_def, Option.some.injEq] at hw'
    subst hw'
    exact of_decide_eq_true hcool

end Meters

/-! ### Calls -/

section Calls

variable {s t : Db} {playerId : String} {wallet wallet' : PlayerWallet}
    {withdrawals : List (Int × Int)}
  {clock : List Int} {limit : Int}

/-- The player has withdrawn nothing without a wallet, and a wallet agrees with
    what was withdrawn. -/
structure Tracked (clock : List Int) (withdrawals : List (Int × Int)) (playerId : String) (s : Db) :
    Prop where
  none : s.wallets.findOne playerId = none → withdrawals = []
  some : ∀ wallet, s.wallets.findOne playerId = some wallet → Metered clock withdrawals wallet

/-- The store after a call that leaves what the player's wallet notes. -/
def SameMeters (playerId : String) (s t : Db) : Prop :=
  (t.wallets.findOne playerId).map PlayerWallet.meters =
    (s.wallets.findOne playerId).map PlayerWallet.meters

theorem Tracked.same (h : Tracked clock withdrawals playerId s) (hsame : SameMeters playerId s t) :
    Tracked clock withdrawals playerId t := by
  unfold SameMeters at hsame
  refine ⟨fun hnone => h.none ?_, fun wallet hfind => ?_⟩
  · rw [hnone, Option.map_none] at hsame
    exact Option.map_eq_none_iff.mp hsame.symm
  · rw [hfind, Option.map_some] at hsame
    rcases Option.map_eq_some_iff.mp hsame.symm with ⟨before, hbefore, hmeters⟩
    rcases h.some before hbefore with ⟨day, hday, hrest⟩
    exact ⟨day, hmeters.symm.trans hday, hrest⟩

theorem sameMeters_of_wallets (h : t.wallets = s.wallets) : SameMeters playerId s t := by
  unfold SameMeters
  rw [h]

/-- A wallet is saved with the meters it had. -/
theorem sameMeters_save (wallet wallet' : PlayerWallet) (ht : t.wallets = s.wallets.save wallet')
    (hfind : s.wallets.findOne wallet'.playerId = some wallet)
    (hmeters : wallet'.meters = wallet.meters) : SameMeters playerId s t := by
  unfold SameMeters
  rw [ht, Table.findOne_save]
  by_cases hkey : playerId = wallet'.playerId
  · rw [if_pos hkey, hkey, hfind, Option.map_some, Option.map_some, hmeters]
  · rw [if_neg hkey]

/-- The wallet of somebody else is saved. -/
theorem sameMeters_other (wallet' : PlayerWallet) (ht : t.wallets = s.wallets.save wallet')
    (hother : wallet'.playerId ≠ playerId) : SameMeters playerId s t := by
  unfold SameMeters
  rw [ht, Table.findOne_save_of_ne hother.symm]

theorem sameMeters_discard {α : Type} {p : Service α}
    (h : p.Ensures False s fun _ t => SameMeters playerId s t) :
    SameMeters playerId s ((discard p).eval s).2 := by
  rw [discard_eval]
  exact (ensures_false_iff ..).mp h

theorem moveFunds_meters {player : String} {allowed : PlayerWallet → Bool}
    {refusal : ServiceError} {record : PlayerWallet → WalletTransaction}
    {write : PlayerWallet → Db → Db} {change : PlayerWallet → PlayerWallet}
    (hwrite : ∀ wallet db, (write wallet db).wallets = db.wallets.save (change wallet))
    (hkey : ∀ wallet, (change wallet).playerId = wallet.playerId)
    (hmeters : ∀ wallet, (change wallet).meters = wallet.meters) :
    SameMeters playerId s ((discard (moveFunds player allowed refusal record write)).eval s).2 := by
  refine sameMeters_discard (moveFunds_calm (fun _ => sameMeters_of_wallets rfl)
    fun wallet hfind _ => ?_)
  refine sameMeters_save wallet (change wallet) (hwrite wallet _) ?_ (hmeters wallet)
  rw [hkey, Table.key_of_findOne hfind]
  exact hfind

/-- Calls that read no clock for the player leave the meters alone. -/
theorem sameMeters_of_clock {call : WalletCall} (h : call.clock playerId = none) :
    SameMeters playerId s (call.step s).2 ∧ call.completes playerId s (call.step s).2 = [] := by
  cases call with
  | deposit request => exact ⟨moveFunds_meters (fun _ _ => rfl) (fun _ => rfl) fun _ => rfl, rfl⟩
  | lockFunds request => exact ⟨moveFunds_meters (fun _ _ => rfl) (fun _ => rfl) fun _ => rfl, rfl⟩
  | unlockFunds request =>
      exact ⟨moveFunds_meters (fun _ _ => rfl) (fun _ => rfl) fun _ => rfl, rfl⟩
  | creditPrize player amount reference =>
      exact ⟨moveFunds_meters (fun _ _ => rfl) (fun _ => rfl) fun _ => rfl, rfl⟩
  | deductEntryFee player amount =>
      -- An entry fee is no withdrawal, so it is not metered.
      refine ⟨sameMeters_discard (ensures_mono (deductEntryFee_ensures player amount s) ?_), rfl⟩
      intro r t hends
      cases r with
      | error e => exact sameMeters_of_wallets (congrArg Db.wallets hends.1)
      | ok _ =>
          rcases hends with ⟨wallet, hfind, -, rfl⟩
          have hkey : wallet.playerId = player := Table.key_of_findOne hfind
          refine sameMeters_save wallet _ rfl ?_ rfl
          rw [hkey]
          exact hfind
  | createWallet request =>
      -- The clock was read for another player.
      have hother : request.playerId ≠ playerId := by
        intro heq
        simp [WalletCall.clock, heq] at h
      refine ⟨sameMeters_discard (ensures_mono (createWallet_ensures request s) ?_), rfl⟩
      intro r t hends
      cases r with
      | error e => exact sameMeters_of_wallets (congrArg Db.wallets hends)
      | ok wallet =>
          rcases hends with ⟨-, hkey, -, -, -, -, -, -, -, rfl⟩
          exact sameMeters_other wallet rfl (hkey ▸ hother)
  | withdraw request =>
      have hother : request.playerId ≠ playerId := by
        intro heq
        simp [WalletCall.clock, heq] at h
      refine ⟨sameMeters_discard (ensures_mono (withdraw_ends request s) ?_), if_neg hother⟩
      have hcurrent : ∀ wallet : PlayerWallet, s.wallets.findOne request.playerId = some wallet →
          (wallet.current request.now).playerId = request.playerId := fun wallet hfind =>
        (current_sameMoney wallet request.now).1.trans (Table.key_of_findOne hfind)
      intro r t hends
      cases r with
      | error e =>
          rcases hends.1 with rfl | ⟨wallet, hfind, u, hu, ht⟩
          · exact sameMeters_of_wallets rfl
          have hwallets : t.wallets = u.wallets := by
            rcases ht with rfl | ⟨tx, -, -, rfl⟩ <;> rfl
          rcases hu with rfl | rfl
          · exact sameMeters_of_wallets hwallets
          · exact sameMeters_other _ hwallets ((hcurrent wallet hfind) ▸ hother)
      | ok tx =>
          rcases hends with ⟨wallet, hfind, -, -, -, -, rfl⟩
          exact sameMeters_other (request.paid wallet) rfl ((hcurrent wallet hfind) ▸ hother)

/-- A new wallet notes the end of the day it is created on. -/
theorem createWallet_meters (request : CreatePlayerWalletRequest) (s : Db) :
    (createWallet request).Ensures False s fun r t => match r with
      | .ok wallet => s.wallets.findOne request.playerId = none ∧
          wallet.playerId = request.playerId ∧
          wallet.meters = (0, some (getNextDayReset request.now), none) ∧ t = s.withWallet wallet
      | .error _ => t = s := by
  unfold createWallet
  refine ensures_bind (ensures_mono (findOneWallet_ensures request.playerId s) fun r t h => ?_)
  rcases h with ⟨rfl, hr⟩
  cases r with
  | error e => rfl
  | ok existing =>
      refine ensures_bind (ensures_require (fun hok => ?_) (fun _ => rfl))
      refine ensures_bind (ensures_compute ?_)
      -- Nothing is saved if the wallet of the platform could not be made.
      cases request.createMpcWallet with
      | error e => exact rfl
      | ok u =>
          refine ensures_perform ⟨?_, rfl, rfl, rfl⟩ fun hfalse => hfalse.elim
          rw [hr]
          exact Option.isNone_iff_eq_none.mp hok

/-- A new wallet is in agreement with no withdrawals. -/
theorem tracked_createWallet {request : CreatePlayerWalletRequest}
    (h : Tracked (request.now :: clock) withdrawals request.playerId s)
    (hclock : ∀ now ∈ clock, request.now ≤ now) :
    Tracked clock withdrawals request.playerId ((WalletCall.createWallet request).step s).2 := by
  have hends := (ensures_false_iff ..).mp (createWallet_meters request s)
  have hstep : ((WalletCall.createWallet request).step s).2 = ((createWallet request).eval s).2 :=
    discard_eval ..
  rw [hstep]
  revert hends
  generalize (createWallet request).eval s = ends
  rcases ends with ⟨r, t⟩
  intro hends
  cases r with
  | error e =>
      obtain rfl : t = s := hends
      exact ⟨h.none, fun wallet hfind => (h.some wallet hfind).later fun now hmem =>
        List.mem_cons_of_mem _ hmem⟩
  | ok wallet =>
      -- A player without a wallet has withdrawn nothing, and the meters start at this
      -- day.
      rcases hends with ⟨hnone, hkey, hmeters, rfl⟩
      have hself : (s.withWallet wallet).wallets.findOne request.playerId = some wallet :=
        hkey ▸ Table.findOne_save_self _ _
      refine ⟨fun hno => (nomatch hself.symm.trans hno), fun wallet' hfind => ?_⟩
      obtain rfl : wallet = wallet' := Option.some.inj (hself.symm.trans hfind)
      have hempty := h.none hnone
      subst hempty
      refine ⟨request.now / DAY_MS, hmeters, fun w hw => absurd hw List.not_mem_nil, ?_⟩
      exact fun now hmem => (day_span request.now).1.trans (hclock now hmem)

/-- A withdrawal that did not go through adds at most a failed row, and brings
    at most the day up to date. -/
theorem withdraw_failed {request : WithdrawRequest}
    (h : t = s ∨ ∃ wallet, s.wallets.findOne request.playerId = some wallet ∧
      ∃ u, (u = s ∨ u = s.withWallet (wallet.current request.now)) ∧
        (t = u ∨ ∃ tx, request.Records wallet tx ∧ (False ∨ tx.status = .FAILED) ∧
          t = { u with walletTxs := s.walletTxs ++ [tx] })) :
    (t.walletTxs = s.walletTxs ∨
      ∃ tx, tx.status = .FAILED ∧ t.walletTxs = s.walletTxs ++ [tx]) ∧
    (t.wallets = s.wallets ∨ ∃ wallet, s.wallets.findOne request.playerId = some wallet ∧
      t.wallets = s.wallets.save (wallet.current request.now)) := by
  rcases h with rfl | ⟨wallet, hfind, u, hu, ht⟩
  · exact ⟨Or.inl rfl, Or.inl rfl⟩
  have hlog : u.walletTxs = s.walletTxs := by rcases hu with rfl | rfl <;> rfl
  -- The reset of the day is saved before the withdrawal is recorded.
  have hwallets : u.wallets = s.wallets ∨ ∃ wallet,
      s.wallets.findOne request.playerId = some wallet ∧
        u.wallets = s.wallets.save (wallet.current request.now) := by
    rcases hu with rfl | rfl
    · exact Or.inl rfl
    · exact Or.inr ⟨wallet, hfind, rfl⟩
  rcases ht with rfl | ⟨tx, -, hstatus, rfl⟩
  · exact ⟨Or.inl hlog, hwallets⟩
  · exact ⟨Or.inr ⟨tx, hstatus.resolve_left id, rfl⟩, hwallets⟩

/-- A withdrawal keeps the limits, unless it is completed at the end of the day. -/
theorem tracked_withdraw {request : WithdrawRequest}
    (h : Tracked (request.now :: clock) withdrawals request.playerId s)
    (hclock : ∀ now ∈ clock, request.now ≤ now) (hlimited : Limited limit withdrawals)
    (hlimit : request.dailyLimit = limit)
    (hoff : (WalletCall.withdraw request).OffReset request.playerId s) :
    Tracked clock (withdrawals ++ (WalletCall.withdraw request).completes request.playerId s
        ((WalletCall.withdraw request).step s).2) request.playerId
      ((WalletCall.withdraw request).step s).2 ∧
    Limited limit (withdrawals ++ (WalletCall.withdraw request).completes request.playerId s
      ((WalletCall.withdraw request).step s).2) := by
  have hends := (ensures_false_iff ..).mp (withdraw_ends request s)
  have hstep : ((WalletCall.withdraw request).step s).2 = ((withdraw request).eval s).2 :=
    discard_eval ..
  rw [hstep]
  revert hends
  generalize (withdraw request).eval s = ends
  rcases ends with ⟨r, t⟩
  intro hends
  simp only [WalletCall.completes, if_true]
  cases r with
  | error e =>
      rcases withdraw_failed hends.1 with ⟨hlog, hwallets⟩
      -- At most a failed row is new, and that is no withdrawal.
      have hnone : ((t.walletTxs.drop s.walletTxs.length).filter fun tx =>
          tx.type = .WITHDRAWAL && tx.status = .COMPLETED) = [] := by
        rcases hlog with hsame | ⟨tx, hstatus, hadded⟩
        · have hlog : t.walletTxs = s.walletTxs := hsame
          rw [hlog, List.drop_length, List.filter_nil]
        · have hlog : t.walletTxs = s.walletTxs ++ [tx] := hadded
          rw [hlog, List.drop_left]
          simp [hstatus]
      rw [hnone, List.map_nil, List.append_nil]
      refine ⟨?_, hlimited⟩
      rcases hwallets with hsame | ⟨wallet, hfind, hsaved⟩
      · refine ⟨fun hno => h.none (hsame ▸ hno), fun wallet hfind => ?_⟩
        exact (h.some wallet (hsame ▸ hfind)).later fun now hmem => List.mem_cons_of_mem _ hmem
      · have hkey : (wallet.current request.now).playerId = request.playerId :=
          (current_sameMoney wallet request.now).1.trans (Table.key_of_findOne hfind)
        have hself : t.wallets.findOne request.playerId = some (wallet.current request.now) := by
          rw [hsaved, ← hkey]
          exact Table.findOne_save_self _ _
        refine ⟨fun hno => (nomatch hself.symm.trans hno), fun wallet' hfind' => ?_⟩
        obtain rfl := Option.some.inj (hself.symm.trans hfind')
        exact (metered_current (h.some wallet hfind) hclock).1
  | ok tx =>
      rcases hends with ⟨wallet, hfind, hpasses, hsigned, hrecords, hstatus, rfl⟩
      have hone : ((s.walletTxs ++ [tx]).drop s.walletTxs.length).filter (fun tx =>
          tx.type = .WITHDRAWAL && tx.status = .COMPLETED) = [tx] := by
        rw [List.drop_left]
        simp [hrecords.2.1, hstatus]
      simp only [hone, List.map_cons, List.map_nil, hrecords.2.2]
      rcases metered_paid (h.some wallet hfind) hclock hlimited hlimit hpasses
        (hoff rfl wallet hfind hpasses hsigned) with ⟨hmetered, hnew⟩
      have hkey : (request.paid wallet).playerId = request.playerId :=
        (current_sameMoney wallet request.now).1.trans (Table.key_of_findOne hfind)
      have hself : (s.withWallet (request.paid wallet)).wallets.findOne request.playerId =
          some (request.paid wallet) := hkey ▸ Table.findOne_save_self _ _
      refine ⟨⟨fun hno => (nomatch hself.symm.trans hno), fun wallet' hfind' => ?_⟩, hnew⟩
      obtain rfl := Option.some.inj (hself.symm.trans hfind')
      exact hmetered

end Calls

/-! ### Runs -/

/-- The limits are kept along a run, from any history that keeps them. -/
theorem limited_history {playerId : String} {limit : Int} {calls : List WalletCall} {s : Db}
    {withdrawals : List (Int × Int)}
    (htracked : Tracked (calls.filterMap (WalletCall.clock playerId)) withdrawals playerId s)
    (hlimited : Limited limit withdrawals)
    (hwithin : ∀ call ∈ calls, call.Within playerId limit)
    (hclock : (calls.filterMap (WalletCall.clock playerId)).Pairwise (· ≤ ·))
    (hoff : Along WalletCall.step (fun call s _ _ => call.OffReset playerId s) calls s) :
    Limited limit (withdrawals ++ history playerId calls s) := by
  induction calls generalizing s withdrawals with
  | nil =>
      unfold history
      rw [List.append_nil]
      exact hlimited
  | cons call calls ih =>
      have hrest : ∀ call ∈ calls, call.Within playerId limit := fun other hmem =>
        hwithin other (List.mem_cons_of_mem _ hmem)
      unfold history
      rw [← List.append_assoc]
      -- A call that reads the clock uses up the first of the times to come.
      cases hread : call.clock playerId with
      | none =>
          rw [List.filterMap_cons_none hread] at htracked hclock
          rcases sameMeters_of_clock (s := s) hread with ⟨hsame, hnothing⟩
          rw [hnothing, List.append_nil]
          exact ih (htracked.same hsame) hlimited hrest hclock hoff.2
      | some now =>
          rw [List.filterMap_cons_some hread] at htracked hclock
          rcases List.pairwise_cons.mp hclock with ⟨hlater, hordered⟩
          cases call with
          | createWallet request =>
              obtain ⟨rfl, rfl⟩ : request.playerId = playerId ∧ request.now = now := by
                simpa [WalletCall.clock] using hread
              have hnothing : (WalletCall.createWallet request).completes request.playerId s
                  ((WalletCall.createWallet request).step s).2 = [] := rfl
              rw [hnothing, List.append_nil]
              exact ih (tracked_createWallet htracked hlater) hlimited hrest hordered hoff.2
          | withdraw request =>
              obtain ⟨rfl, rfl⟩ : request.playerId = playerId ∧ request.now = now := by
                simpa [WalletCall.clock] using hread
              have hlimit := hwithin (.withdraw request) List.mem_cons_self rfl
              have hstep := tracked_withdraw htracked hlater hlimited hlimit hoff.1
              exact ih hstep.1 hstep.2 hrest hordered hoff.2
          | deposit request => exact nomatch hread
          | lockFunds request => exact nomatch hread
          | unlockFunds request => exact nomatch hread
          | creditPrize player amount reference => exact nomatch hread
          | deductEntryFee player amount => exact nomatch hread

/-- In a run of the wallet service in which the clock does not go back and no
    withdrawal of the player is completed at the end of the day, no day exceeds
    the limit and no two withdrawals are too close. -/
theorem withdrawals_limited (playerId : String) (limit : Int) (calls : List WalletCall)
    (hwithin : ∀ call ∈ calls, call.Within playerId limit)
    (hclock : (calls.filterMap (WalletCall.clock playerId)).Pairwise (· ≤ ·))
    (hoff : Along WalletCall.step (fun call s _ _ => call.OffReset playerId s) calls Db.empty) :
    Limited limit (history playerId calls Db.empty) := by
  have htracked : Tracked (calls.filterMap (WalletCall.clock playerId)) [] playerId Db.empty :=
    ⟨fun _ => rfl, fun wallet hfind => nomatch hfind⟩
  refine limited_history htracked ?_ hwithin hclock hoff
  exact ⟨fun _ => le_max_right _ _, List.isChain_nil⟩

/-- A player withdraws the whole limit at some instant, and again as soon as the
    cooldown is over. -/
def twiceTheLimit (now : Int) : List WalletCall :=
  let withdraw (now : Int) : WalletCall := .withdraw
    { playerId := "a", amount := 1000, now := now, dailyLimit := 1000,
      signTransaction := .ok "signed" }
  [.createWallet { playerId := "a", now := 0 },
   .deposit { playerId := "a", amount := 3000, signature := "deposit" },
   withdraw now, withdraw (now + WITHDRAWAL_COOLDOWN_MS)]

theorem twiceTheLimit_within (now : Int) :
    ∀ call ∈ twiceTheLimit now, call.Within "a" 1000 := by
  intro call hcall
  simp only [twiceTheLimit, List.mem_cons, List.not_mem_nil, or_false] at hcall
  rcases hcall with rfl | rfl | rfl | rfl
  · exact trivial
  · exact trivial
  · exact fun _ => rfl
  · exact fun _ => rfl

/-- At midnight both withdrawals go through, and both are on the new day. -/
theorem not_withdrawals_limited :
    (∀ call ∈ twiceTheLimit DAY_MS, call.Within "a" 1000) ∧
    ((twiceTheLimit DAY_MS).filterMap (WalletCall.clock "a")).Pairwise (· ≤ ·) ∧
    ¬ Limited 1000 (history "a" (twiceTheLimit DAY_MS) Db.empty) := by
  refine ⟨twiceTheLimit_within DAY_MS, by decide +kernel, fun h => ?_⟩
  have hday := h.daily 1
  revert hday
  decide +kernel

/-- A moment later the second one has to wait for the next day. -/
theorem withdrawals_limited_twiceTheLimit :
    Limited 1000 (history "a" (twiceTheLimit (DAY_MS + 1)) Db.empty) := by
  refine withdrawals_limited "a" 1000 (twiceTheLimit (DAY_MS + 1))
    (twiceTheLimit_within (DAY_MS + 1)) (by decide +kernel) ⟨trivial, trivial, ?_, ?_, trivial⟩
  · decide +kernel
  · decide +kernel

end Esports

end SvmCourse
