import SvmCourse.Esports.Payability
import SvmCourse.Esports.PrizeInfo

/-!
# The Guaranteed Prize Pool

The entity says that the prize pool of a tournament is what was collected or the
guaranteed pool, whichever is more, and that the fee is taken from that. No
service reads the guaranteed pool: the payout starts from the balance of the
escrow and the display from the prize pool of the row, and both are what was
collected. So the amount to distribute is the documented one only if there is no
overlay, or if the overlay less its fee is lost in the rounding.

## Main definitions

* `Tournament.guaranteedPool`, `Tournament.platformOverlay`,
  `Tournament.documentedAmount`: The calculation the entity documents.
* `FeesCollected`: The entry fees are in the escrow and in the row.
* `PoolHonoured`: The payout and the display use an amount, and every percentage
  is paid from it.

## Theorems

* `afterFee_eq_iff`: When more is the same after the fee.
* `prizeInfo_ok_iff`: When the prizes can be shown.
* `poolHonoured_iff`: When the guaranteed pool is honoured.
-/

namespace SvmCourse

namespace Esports

open Core Core.Prog

/-! ### The documented calculation -/

/-- What a pool leaves after the fee. -/
def afterFee (pool : Int) (percent : ℚ) : Int := pool - platformFeeOf pool percent

/-- `Guaranteed Pool = max(Collected, GuaranteedPrizePool)`. -/
def Tournament.guaranteedPool (x : Tournament) (collected : Int) : Int :=
  max collected x.guaranteedPrizePool

/-- `Platform Overlay = max(0, Guaranteed - Collected)`. -/
def Tournament.platformOverlay (x : Tournament) (collected : Int) : Int :=
  max 0 (x.guaranteedPool collected - collected)

/-- `Distributable = Guaranteed - Platform Fee`. -/
def Tournament.documentedAmount (x : Tournament) (collected : Int) : Int :=
  afterFee (x.guaranteedPool collected) x.platformFeePercent

/-- What is more by some overlay is the same after the fee exactly when the
    overlay less its fee is lost in the rounding. -/
theorem afterFee_eq_iff {collected overlay : Int} {percent : ℚ} (hcollected : 0 ≤ collected)
    (hoverlay : 0 ≤ overlay) (hfair : FairFee percent) :
    afterFee collected percent = afterFee (collected + overlay) percent ↔
      overlay * (10000 - mathRound (percent * 100)) ≤
        -(collected * (10000 - mathRound (percent * 100))) % 10000 := by
  have hround := mathRound_mem_Icc hfair.1 hfair.2
  unfold afterFee platformFeeOf
  generalize mathRound (percent * 100) = rate at hround
  -- Nothing here is negative, so that dividing rounds down.
  have hpart : 0 ≤ overlay * rate := Int.mul_nonneg hoverlay hround.1
  have hpart_le : overlay * rate ≤ overlay * 10000 :=
    Int.mul_le_mul_of_nonneg_left hround.2 hoverlay
  have hfee : 0 ≤ collected * rate := Int.mul_nonneg hcollected hround.1
  rw [Int.tdiv_eq_ediv_of_nonneg hfee, Int.add_mul,
    Int.tdiv_eq_ediv_of_nonneg (Int.add_nonneg hfee hpart), Int.mul_sub, Int.mul_sub]
  generalize collected * rate = fee at hfee
  generalize overlay * rate = part at hpart hpart_le
  omega

/-- A share of a whole percentage is the exact share rounded down. -/
theorem entryShare_eq_floor {amount : Int} (hamount : 0 ≤ amount) {entry : PrizeEntry}
    (h : entry.IsWhole) : entryShare amount entry = ⌊(amount : ℚ) * entry.percentage / 100⌋ := by
  have hexact : (amount : ℚ) * entry.percentage / 100 =
      ((amount * entry.percentage.num : Int) : ℚ) / ((100 : Nat) : ℚ) := by
    nth_rewrite 1 [percentage_num h.2]
    push_cast
    ring
  rw [entryShare_eq_ediv hamount h, hexact, Rat.floor_intCast_div_natCast]
  rfl

/-! ### What can be shown -/

theorem showPrize_error (amount : Int) {entry : PrizeEntry} (h : ¬entry.percentage.den = 1) :
    ∃ e, showPrize amount entry = .error e := by
  unfold showPrize percentageShare bigIntOfNumber
  rw [if_neg h]
  exact ⟨_, rfl⟩

theorem mapM_showPrize_whole {amount : Int} {entries : List PrizeEntry} {shown : List PrizeShown}
    (h : entries.mapM (showPrize amount) = .ok shown) :
    ∀ entry ∈ entries, entry.percentage.den = 1 := by
  induction entries generalizing shown with
  | nil => exact fun entry hentry => absurd hentry List.not_mem_nil
  | cons first entries ih =>
      rw [List.mapM_cons] at h
      -- An entry that is not a whole percentage makes the list fail.
      by_cases hwhole : first.percentage.den = 1
      · cases hrest : entries.mapM (showPrize amount) with
        | error e =>
            cases hfirst : showPrize amount first <;> rw [hfirst, hrest] at h <;> exact nomatch h
        | ok rest =>
            intro entry hentry
            rcases List.mem_cons.mp hentry with rfl | hlater
            · exact hwhole
            · exact ih hrest entry hlater
      · rcases showPrize_error amount hwhole with ⟨e, he⟩
        rw [he] at h
        exact nomatch h

/-- The prizes can be shown if all percentages are whole, and then the amount is
    what the pool leaves after the fee. -/
theorem prizeInfo_ok_iff (pool : Int) (percent : ℚ) (strategy : PrizeDistributionStrategy)
    (riskLevel : PrizeRiskLevel) (entries : List PrizeEntry) (amount : Int) :
    (∃ info, prizeInfo pool percent strategy riskLevel entries = .ok info ∧
        info.distributableAmount = amount) ↔
      afterFee pool percent = amount ∧ ∀ entry ∈ entries, entry.percentage.den = 1 := by
  constructor
  · -- The first percentage that is not whole would have thrown.
    rintro ⟨info, hinfo, hamount⟩
    cases hshown : entries.mapM (showPrize (pool - platformFeeOf pool percent)) with
    | error e =>
        unfold prizeInfo at hinfo
        simp only [hshown] at hinfo
        exact nomatch hinfo
    | ok shown =>
        have hwhole := mapM_showPrize_whole hshown
        rw [prizeInfo_whole pool percent strategy riskLevel hwhole] at hinfo
        rw [← Except.ok.inj hinfo] at hamount
        exact ⟨hamount, hwhole⟩
  · rintro ⟨hamount, hwhole⟩
    exact ⟨_, prizeInfo_whole pool percent strategy riskLevel hwhole, hamount⟩

/-! ### The payout -/

/-- The entry fees of the registered players are in the locked escrow and in the
    row. The percentages are not negative. -/
structure FeesCollected (s : Db) (x : Tournament) (escrow : EscrowAccount)
    (registrations : List TournamentRegistration) : Prop where
  row : s.tournaments.findOne x.tournamentId = some x
  entryFee : 0 < x.entryFee
  pool : x.prizePool = x.entryFee * registrations.length
  find : s.escrows.findOne x.source = some escrow
  locked : escrow.status = .LOCKED
  balance : escrow.currentBalance = x.entryFee * registrations.length
  percent : escrow.platformFeePercent = x.platformFeePercent
  fee : FairFee x.platformFeePercent
  nonneg : ∀ entry ∈ x.prizeStructure, 0 ≤ entry.percentage

/-- The display shows the amount, the payout returns and has distributed the
    amount, and every entry without a fixed amount that finds a player pays him
    its percentage of the amount, rounded down. -/
structure PoolHonoured (s : Db) (x : Tournament) (registrations : List TournamentRegistration)
    (amount : Int) : Prop where
  shown : ∃ info, ((getPrizeInfo x.source).eval s).1 = .ok info ∧ info.distributableAmount = amount
  paid : ∃ record t, (distributeTournamentPrizes x registrations).eval s = (.ok record, t) ∧
    record.distributableAmount = amount ∧
    ∀ entry ∈ x.prizeStructure, orMissing entry.fixedAmount = none →
      ∀ r, tournamentRecipient registrations entry = some r → ∃ d ∈ record.distributions,
        d.toPrizeCalculation = entry.paidTo r ⌊(amount : ℚ) * entry.percentage / 100⌋

section Honoured

variable {s : Db} {x : Tournament} {escrow : EscrowAccount}
  {registrations : List TournamentRegistration}

theorem FeesCollected.collected_nonneg (h : FeesCollected s x escrow registrations) :
    0 ≤ x.prizePool := by
  rw [h.pool]
  exact Int.mul_nonneg (Int.le_of_lt h.entryFee) (by omega)

theorem FeesCollected.canRelease_iff (h : FeesCollected s x escrow registrations) :
    escrow.canRelease = true ↔ registrations ≠ [] := by
  have hsome : 0 < registrations.length ↔ registrations ≠ [] := List.length_pos_iff
  rw [← hsome]
  unfold EscrowAccount.canRelease
  rw [h.locked, h.balance]
  simp only [decide_true, Bool.true_and, decide_eq_true_eq]
  refine ⟨fun hpos => ?_, fun hpos => Int.mul_pos h.entryFee (by omega)⟩
  by_contra hzero
  rw [show registrations.length = 0 by omega] at hpos
  simp at hpos

theorem FeesCollected.distributable (h : FeesCollected s x escrow registrations) :
    distributableAmount escrow = afterFee x.prizePool x.platformFeePercent := by
  unfold distributableAmount afterFee
  rw [h.balance, h.percent, h.pool]

theorem FeesCollected.afterFee_nonneg (h : FeesCollected s x escrow registrations) :
    0 ≤ afterFee x.prizePool x.platformFeePercent := by
  have hle := platformFeeOf_le h.collected_nonneg h.fee.1 h.fee.2
  unfold afterFee
  omega

/-- The amount that is shown. -/
theorem FeesCollected.shown_iff (h : FeesCollected s x escrow registrations) (amount : Int) :
    (∃ info, ((getPrizeInfo x.source).eval s).1 = .ok info ∧ info.distributableAmount = amount) ↔
      afterFee x.prizePool x.platformFeePercent = amount ∧
        ∀ entry ∈ x.prizeStructure, entry.percentage.den = 1 := by
  rw [getPrizeInfo_tournament h.row]
  exact prizeInfo_ok_iff ..

/-- The pool is honoured with some amount if that is what was collected less the
    fee, everything can be shown, and what is awarded can be paid. -/
theorem FeesCollected.honoured_iff (h : FeesCollected s x escrow registrations) (amount : Int) :
    PoolHonoured s x registrations amount ↔
      afterFee x.prizePool x.platformFeePercent = amount ∧
        (∀ entry ∈ x.prizeStructure, entry.percentage.den = 1) ∧ registrations ≠ [] ∧
        Affordable (afterFee x.prizePool x.platformFeePercent)
          (x.awardedEntries registrations) := by
  -- The payout never looks at the amount, and the display never at the escrow.
  have hreturns := tournamentReturns_iff registrations h.find h.percent
  rw [h.canRelease_iff, h.distributable] at hreturns
  constructor
  · rintro ⟨hshown, record, t, heval, -, -⟩
    rcases (h.shown_iff amount).mp hshown with ⟨hamount, hwhole⟩
    exact ⟨hamount, hwhole, hreturns.mp ⟨record, t, heval⟩⟩
  · rintro ⟨hamount, hwhole, hready⟩
    rcases hreturns.mpr hready with ⟨record, t, heval⟩
    rcases record_pays h.find h.percent heval with ⟨hdistributed, hpays⟩
    rw [h.distributable] at hdistributed hpays
    refine ⟨(h.shown_iff amount).mpr ⟨hamount, hwhole⟩, record, t, heval,
      hdistributed.trans hamount, fun entry hentry hfixed r hr => ?_⟩
    rcases hpays entry hentry r hr with ⟨v, hv, hpaid⟩
    -- Without a fixed amount what is read is the share.
    have hshare : entry.amountOf (afterFee x.prizePool x.platformFeePercent) =
        some (entryShare (afterFee x.prizePool x.platformFeePercent) entry) := by
      unfold PrizeEntry.amountOf
      rw [hfixed]
      exact if_pos (hwhole entry hentry)
    obtain rfl := Option.some.inj (hshare.symm.trans hv)
    rw [← hamount, ← entryShare_eq_floor h.afterFee_nonneg
      ⟨h.nonneg entry hentry, hwhole entry hentry⟩]
    exact hpaid

end Honoured

/-- The guaranteed prize pool is honoured if and only if there is no overlay, or
    none that is left after its fee and the rounding, all percentages are whole,
    somebody has registered, and what is awarded can be paid from what was
    collected. -/
theorem poolHonoured_iff {s : Db} {x : Tournament} {escrow : EscrowAccount}
    {registrations : List TournamentRegistration} (h : FeesCollected s x escrow registrations) :
    PoolHonoured s x registrations
        (x.documentedAmount (x.entryFee * registrations.length)) ↔
      x.platformOverlay (x.entryFee * registrations.length) *
          (10000 - mathRound (x.platformFeePercent * 100)) ≤
        -(x.entryFee * registrations.length *
          (10000 - mathRound (x.platformFeePercent * 100))) % 10000 ∧
      (∀ entry ∈ x.prizeStructure, entry.percentage.den = 1) ∧ registrations ≠ [] ∧
      Affordable (afterFee (x.entryFee * registrations.length) x.platformFeePercent)
        (x.awardedEntries registrations) := by
  have hcollected := h.collected_nonneg
  rw [h.honoured_iff, ← h.pool]
  refine and_congr_left fun _ => ?_
  -- The guaranteed pool is what was collected and the overlay.
  have hoverlay : x.guaranteedPool x.prizePool = x.prizePool + x.platformOverlay x.prizePool := by
    unfold Tournament.platformOverlay Tournament.guaranteedPool
    omega
  unfold Tournament.documentedAmount
  rw [hoverlay]
  refine afterFee_eq_iff hcollected ?_ h.fee
  unfold Tournament.platformOverlay
  omega

/-! ### A tournament of two -/

/-- A tournament for the winner, in which two players have paid. -/
def guaranteedTournament (guaranteedPrizePool : Int) : Tournament where
  tournamentId := "t"
  tokenType := .SOL
  entryFee := 1000000
  -- Two players have paid.
  prizePool := 2000000
  guaranteedPrizePool := guaranteedPrizePool
  maxParticipants := 4
  minParticipants := 2
  bracketType := .SINGLE_ELIMINATION
  status := .IN_PROGRESS
  platformFeePercent := 5
  prizeStrategy := .WINNER_TAKES_ALL
  riskLevel := .HIGH
  prizeStructure := [{ place := 1, percentage := 100, label := some "1st Place" }]
  registrationStart := 0
  registrationEnd := 10

/-- The escrow of the witness, which has less than was guaranteed. -/
def collectedEscrow : EscrowAccount where
  escrowId := tournamentSource "t"
  tokenType := .SOL
  totalDeposited := 2000000
  totalReleased := 0
  totalRefunded := 0
  platformFeeCollected := 0
  currentBalance := 2000000
  status := .LOCKED
  platformFeePercent := 5

/-- The store of the witness. -/
def guaranteedStore (guaranteedPrizePool : Int) : Db :=
  { Db.empty with
    tournaments := Table.empty.save (guaranteedTournament guaranteedPrizePool)
    escrows := Table.empty.save collectedEscrow }

/-- The two players who are placed in the witness. -/
def finalTwo : List TournamentRegistration :=
  [{ tournamentId := "t", playerId := "a", walletId := 0, status := .CHECKED_IN,
     finalPlacement := some 1 },
   { tournamentId := "t", playerId := "b", walletId := 1, status := .CHECKED_IN,
     finalPlacement := some 2 }]

theorem guaranteedTournament_collected (guaranteedPrizePool : Int) :
    FeesCollected (guaranteedStore guaranteedPrizePool) (guaranteedTournament guaranteedPrizePool)
      collectedEscrow finalTwo where
  row := Table.findOne_save_self Table.empty (guaranteedTournament guaranteedPrizePool)
  entryFee := show (0 : Int) < 1000000 by omega
  pool := rfl
  find := Table.findOne_save_self Table.empty collectedEscrow
  locked := rfl
  balance := rfl
  percent := rfl
  fee := show (0 : ℚ) ≤ 5 ∧ (5 : ℚ) ≤ 100 by norm_num
  nonneg := fun entry hentry => by
    rw [List.mem_singleton.mp hentry]
    norm_num

/-- Ten million are guaranteed and two were collected. What is left of the
    guaranteed pool after the fee is 9500000, and 1900000 are shown and paid. -/
theorem not_poolHonoured :
    (guaranteedTournament 10000000).documentedAmount (1000000 * 2) = 9500000 ∧
      (match ((getPrizeInfo (tournamentSource "t")).eval (guaranteedStore 10000000)).1 with
        | .ok info => info.distributableAmount
        | .error _ => 0) = 1900000 ∧
      (match ((distributeTournamentPrizes (guaranteedTournament 10000000) finalTwo).eval
          (guaranteedStore 10000000)).1 with
        | .ok record => record.distributableAmount
        | .error _ => 0) = 1900000 ∧
      ¬PoolHonoured (guaranteedStore 10000000) (guaranteedTournament 10000000) finalTwo
        ((guaranteedTournament 10000000).documentedAmount (1000000 * 2)) := by
  have hdocumented : (guaranteedTournament 10000000).documentedAmount (1000000 * 2) = 9500000 := by
    decide +kernel
  have hshown : (match ((getPrizeInfo (tournamentSource "t")).eval
      (guaranteedStore 10000000)).1 with
        | .ok info => info.distributableAmount
        | .error _ => 0) = 1900000 := by
    decide +kernel
  refine ⟨hdocumented, hshown, by decide +kernel, fun hhonoured => ?_⟩
  rcases hhonoured.shown with ⟨info, hinfo, hamount⟩
  have hinfo' : ((getPrizeInfo (tournamentSource "t")).eval (guaranteedStore 10000000)).1 =
      .ok info := hinfo
  rw [hinfo'] at hshown
  have hcollected : info.distributableAmount = 1900000 := hshown
  omega

/-- A guaranteed pool that is less than what was collected is honoured. -/
theorem poolHonoured_collected :
    PoolHonoured (guaranteedStore 1500000) (guaranteedTournament 1500000) finalTwo
      ((guaranteedTournament 1500000).documentedAmount (1000000 * 2)) := by
  refine (poolHonoured_iff (guaranteedTournament_collected 1500000)).mpr ⟨?_, ?_, ?_, ?_⟩
  · decide +kernel
  · decide +kernel
  · decide
  · decide +kernel

end Esports

end SvmCourse
