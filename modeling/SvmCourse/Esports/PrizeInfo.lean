import Mathlib.Data.List.Forall2
import SvmCourse.Esports.Settling

/-!
# Prize Information

What players are shown of the prizes before they are paid. The display takes
the prize pool of the row where the payout takes the balance of the escrow, and
computes the fee and the shares by the same formulas, entry by entry, whether
an entry will find somebody or not.

So with the pool in the escrow the payments are some of the amounts shown. The
shares of percentages that add up to at most one hundred fit into what the
escrow may pay out, since it takes the same fee from the same balance, and a
payout that is computed like this is never refused.

## Main definitions

* `PrizeInfo`, `getPrizeInfo`: What is shown.
* `WholeStructure`: A prize structure of whole percentages.
* `FitsEscrow`: What is paid fits the escrow.
* `AsShown`: What is paid is what was shown.

## Theorems

* `releaseEscrow_succeeds`: A release the escrow can make.
* `prizes_fit`: Payments fit the escrow, and are the amounts shown.
-/

namespace SvmCourse

namespace Esports

open Core Core.Prog

/-! ### What is shown -/

/-- One line of the breakdown. -/
structure PrizeShown where
  placement : ℚ
  percentage : ℚ
  amount : Int
  label : Option String
  isMvp : Bool
  deriving DecidableEq

/-- What is shown of the prizes. -/
structure PrizeInfo where
  totalPrizePool : Int
  platformFee : Int
  distributableAmount : Int
  strategy : PrizeDistributionStrategy
  riskLevel : PrizeRiskLevel
  prizeBreakdown : List PrizeShown
  deriving DecidableEq

/-- A prize as it is shown. -/
def showPrize (distributableAmount : Int) (ps : PrizeEntry) : Except ServiceError PrizeShown := do
  let amount ← percentageShare distributableAmount ps.percentage
  pure
    { placement := ps.place
      percentage := ps.percentage
      amount := amount
      label := ps.label
      isMvp := ps.isMvp }

/-- The breakdown of a pool, which the first percentage that is no integer
    ends. -/
def prizeInfo (totalPrizePool : Int) (platformFeePercent : ℚ) (strategy : PrizeDistributionStrategy)
    (riskLevel : PrizeRiskLevel) (prizeStructure : List PrizeEntry) :
    Except ServiceError PrizeInfo := do
  -- The display computes from the pool of the row, where the payout reads the escrow.
  let platformFee := platformFeeOf totalPrizePool platformFeePercent
  let distributableAmount := totalPrizePool - platformFee
  let prizeBreakdown ← prizeStructure.mapM (showPrize distributableAmount)
  pure
    { totalPrizePool := totalPrizePool
      platformFee := platformFee
      distributableAmount := distributableAmount
      strategy := strategy
      riskLevel := riskLevel
      prizeBreakdown := prizeBreakdown }

/-- The prizes of a match or tournament, as they are shown. -/
def getPrizeInfo (source : SourceId) : Service PrizeInfo :=
  match source.sourceType with
  | .MATCH => do
    let m ← matchRepository.findOne source.hex
    let m ← demand m (.NotFoundException s!"Match {source} not found")
    compute (prizeInfo m.prizePool m.platformFeePercent m.prizeStrategy m.riskLevel
      m.prizeStructure)
  | .TOURNAMENT => do
    let t ← tournamentRepository.findOne source.hex
    let t ← demand t (.NotFoundException s!"Tournament {source} not found")
    compute (prizeInfo t.prizePool t.platformFeePercent t.prizeStrategy t.riskLevel
      t.prizeStructure)

theorem getPrizeInfo_match {s : Db} {m : Match} (h : s.matchRows.findOne m.matchId = some m) :
    (getPrizeInfo m.source).eval s = (prizeInfo m.prizePool m.platformFeePercent m.prizeStrategy
      m.riskLevel m.prizeStructure, s) := by
  dsimp only [getPrizeInfo, Match.source]
  unfold matchRepository.findOne query
  rw [bind_eq, eval_bind_ok (eval_perform ..), h, bind_eq, Option.map_some,
    eval_bind_ok (eval_demand_some ..), eval_compute]

theorem getPrizeInfo_tournament {s : Db} {x : Tournament}
    (h : s.tournaments.findOne x.tournamentId = some x) :
    (getPrizeInfo x.source).eval s = (prizeInfo x.prizePool x.platformFeePercent x.prizeStrategy
      x.riskLevel x.prizeStructure, s) := by
  dsimp only [getPrizeInfo, Tournament.source]
  unfold tournamentRepository.findOne query
  rw [bind_eq, eval_bind_ok (eval_perform ..), h, bind_eq, Option.map_some,
    eval_bind_ok (eval_demand_some ..), eval_compute]

/-- The line of an entry with a whole percentage. -/
def wholePrizeShown (amount : Int) (entry : PrizeEntry) : PrizeShown where
  placement := entry.place
  percentage := entry.percentage
  amount := entryShare amount entry
  label := entry.label
  isMvp := entry.isMvp

theorem mapM_showPrize {amount : Int} {entries : List PrizeEntry}
    (h : ∀ entry ∈ entries, entry.percentage.den = 1) :
    entries.mapM (showPrize amount) = .ok (entries.map (wholePrizeShown amount)) := by
  induction entries with
  | nil => rfl
  | cons entry entries ih =>
      have hone : showPrize amount entry = .ok (wholePrizeShown amount entry) := by
        unfold showPrize
        rw [percentageShare_whole (h entry List.mem_cons_self)]
        rfl
      rw [List.mapM_cons, hone, ih fun e he => h e (List.mem_cons_of_mem _ he)]
      rfl

/-- With whole percentages every entry is shown with its share. -/
theorem prizeInfo_whole (pool : Int) (percent : ℚ) (strategy : PrizeDistributionStrategy)
    (riskLevel : PrizeRiskLevel) {entries : List PrizeEntry}
    (h : ∀ entry ∈ entries, entry.percentage.den = 1) :
    prizeInfo pool percent strategy riskLevel entries = .ok
      { totalPrizePool := pool
        platformFee := platformFeeOf pool percent
        distributableAmount := pool - platformFeeOf pool percent
        strategy := strategy
        riskLevel := riskLevel
        prizeBreakdown := entries.map (wholePrizeShown (pool - platformFeeOf pool percent)) } := by
  unfold prizeInfo
  simp only [mapM_showPrize h]
  rfl

/-! ### What fits -/

/-- There are entries, all with whole percentages that are not negative and
    without a fixed amount, and they come to one hundred at most. -/
structure WholeStructure (entries : List PrizeEntry) : Prop where
  some_entry : entries ≠ []
  whole : ∀ entry ∈ entries, entry.IsWhole ∧ entry.fixedAmount = none
  total : totalPercentage entries ≤ 100

/-- What is paid is no more than what the escrow may pay out, so that an escrow
    that can be released takes the payments. The fee, the payments and what
    remains are the whole balance, and if everything is given away, what remains
    is less than one unit for each entry. -/
structure FitsEscrow (s : Db) (escrow : EscrowAccount) (entries : List PrizeEntry)
    (dists : List PrizeCalculation) : Prop where
  total_le : (dists.map PrizeCalculation.amount).sum ≤ distributableAmount escrow
  releases : escrow.canRelease = true →
    ∃ txs t, (releaseEscrow (paymentsOf escrow.escrowId dists)).eval s = (.ok txs, t)
  remainder : ∃ remainder, 0 ≤ remainder ∧
    platformFeeOf escrow.currentBalance escrow.platformFeePercent +
      (dists.map PrizeCalculation.amount).sum + remainder = escrow.currentBalance ∧
    (totalPercentage entries = 100 → dists.length = entries.length → remainder < entries.length)

/-- The payment is what was shown for its entry. -/
def SameAmount (dist : PrizeCalculation) (shown : PrizeShown) : Prop :=
  dist.amount = shown.amount ∧ dist.percentage = shown.percentage ∧ dist.label = shown.label ∧
    dist.isMvp = shown.isMvp ∧ dist.placement = if shown.isMvp then 0 else shown.placement

/-- The payments are, in order, what is shown for some of the entries. -/
def AsShown (dists : List PrizeCalculation) (outcome : Except ServiceError PrizeInfo × Db) : Prop :=
  ∃ info, outcome.1 = .ok info ∧ List.SublistForall₂ SameAmount dists info.prizeBreakdown

section Fits

variable {s : Db} {escrow : EscrowAccount} {entries : List PrizeEntry}

/-- An escrow that can be released pays out what fits. -/
theorem releaseEscrow_succeeds {request : ReleaseEscrowRequest}
    (hfind : s.escrows.findOne request.escrowId = some escrow) (hcan : escrow.canRelease = true)
    (htotal : request.total ≤ distributableAmount escrow) :
    ∃ txs t, (releaseEscrow request).eval s = (.ok txs, t) := by
  -- A release is refused for one of three reasons, and none is there.
  have hends := (ensures_false_iff ..).mp (releaseEscrow_ensures (C := False) request s)
  rcases heval : (releaseEscrow request).eval s with ⟨r, t⟩
  rw [heval] at hends
  cases r with
  | ok txs => exact ⟨txs, t, rfl⟩
  | error e =>
      rcases hends with ⟨-, hc | hnone | ⟨found, hfound, hwhy⟩⟩ | ⟨hc, -⟩
      · exact hc.elim
      · exact nomatch hnone.symm.trans hfind
      · obtain rfl := Option.some.inj (hfound.symm.trans hfind)
        unfold distributableAmount at htotal
        rcases hwhy with hno | hless
        · exact nomatch hno.symm.trans hcan
        · omega
      · exact hc.elim

/-- Payments of shares to some of the entries fit. -/
theorem fitsEscrow_of_shares (hfind : s.escrows.findOne escrow.escrowId = some escrow)
    (hbalance : 0 ≤ escrow.currentBalance) (hfair : FairFee escrow.platformFeePercent)
    (hwhole : WholeStructure entries) (payment : PrizeEntry → Option PrizeCalculation)
    (hpay : ∀ entry ∈ entries, ∀ d, payment entry = some d →
      d.amount = entryShare (distributableAmount escrow) entry) :
    FitsEscrow s escrow entries (entries.filterMap payment) := by
  have hfee := platformFeeOf_le hbalance hfair.1 hfair.2
  have hamount : 0 ≤ distributableAmount escrow := by
    unfold distributableAmount
    omega
  have hentries : ∀ entry ∈ entries, entry.IsWhole := fun e he => (hwhole.whole e he).1
  have htotal : ((entries.filterMap payment).map PrizeCalculation.amount).sum ≤
      distributableAmount escrow :=
    Int.le_trans (sum_payments_le hamount hentries hpay)
      (sum_shares_le hamount hentries hwhole.total)
  refine ⟨htotal, fun hcan => releaseEscrow_succeeds hfind hcan ?_,
    distributableAmount escrow - ((entries.filterMap payment).map PrizeCalculation.amount).sum,
    by omega, ?_, fun hall hlength => ?_⟩
  · rw [paymentsOf_total]
    exact htotal
  · unfold distributableAmount
    omega
  · -- Everybody is paid, so the payments are all the shares.
    have hevery : entries.filter (fun entry => (payment entry).isSome) = entries :=
      List.filter_eq_self.mpr (List.filterMap_length_eq_length.mp hlength)
    have hsum := sum_payments_eq hpay
    rw [hevery] at hsum
    have hdust := sum_shares_dust hamount hentries hall
    omega

/-- Nothing is paid. -/
theorem fitsEscrow_nil (hfind : s.escrows.findOne escrow.escrowId = some escrow)
    (hbalance : 0 ≤ escrow.currentBalance) (hfair : FairFee escrow.platformFeePercent)
    (hwhole : WholeStructure entries) : FitsEscrow s escrow entries [] := by
  have hnone := fitsEscrow_of_shares hfind hbalance hfair hwhole (fun _ => none)
    fun _ _ _ h => nomatch h
  rwa [List.filterMap_none] at hnone

theorem sublistForall₂_filterMap {α β γ : Type} {R : β → γ → Prop} {f : α → Option β} {g : α → γ}
    {l : List α} (h : ∀ a ∈ l, ∀ b, f a = some b → R b (g a)) :
    List.SublistForall₂ R (l.filterMap f) (l.map g) := by
  induction l with
  | nil => exact .nil
  | cons a l ih =>
      have hrest := ih fun a' ha' => h a' (List.mem_cons_of_mem _ ha')
      cases hf : f a with
      | none =>
          rw [List.filterMap_cons_none hf]
          exact .cons_right hrest
      | some b =>
          rw [List.filterMap_cons_some hf]
          exact .cons (h a List.mem_cons_self b hf) hrest

/-- Every line that is paid is paid as shown. -/
theorem asShown_of_shares {payment : PrizeEntry → Option PrizeCalculation} {pool : Int}
    {percent : ℚ} (strategy : PrizeDistributionStrategy) (riskLevel : PrizeRiskLevel)
    (hwhole : WholeStructure entries)
    (hpay : ∀ entry ∈ entries, ∀ d, payment entry = some d →
      SameAmount d (wholePrizeShown (pool - platformFeeOf pool percent) entry)) :
    AsShown (entries.filterMap payment) (prizeInfo pool percent strategy riskLevel entries, s) :=
  ⟨_, prizeInfo_whole pool percent strategy riskLevel fun e he => (hwhole.whole e he).1.2,
    sublistForall₂_filterMap hpay⟩

end Fits

theorem wholeMatchPayment_same {result : MatchResult} {participants ranked : List MatchParticipant}
    {amount : Int} {entry : PrizeEntry} {d : PrizeCalculation}
    (h : wholeMatchPayment result participants ranked amount entry = some d) :
    SameAmount d (wholePrizeShown amount entry) := by
  rcases Option.map_eq_some_iff.mp h with ⟨recipient, -, rfl⟩
  exact ⟨rfl, rfl, rfl, rfl, rfl⟩

theorem wholeTournamentPayment_same {ranked : List TournamentRegistration} {amount : Int}
    {entry : PrizeEntry} {d : PrizeCalculation}
    (h : wholeTournamentPayment ranked amount entry = some d) :
    SameAmount d (wholePrizeShown amount entry) := by
  unfold wholeTournamentPayment at h
  cases hmvp : entry.isMvp with
  | true =>
      rw [hmvp] at h
      exact nomatch h
  | false =>
      rw [hmvp, if_neg Bool.false_ne_true] at h
      rcases Option.map_eq_some_iff.mp h with ⟨registration, -, rfl⟩
      refine ⟨rfl, rfl, rfl, hmvp.symm, ?_⟩
      simp [wholePrizeShown, hmvp]

/-- With a prize structure of whole percentages the payments of a match and of a
    tournament fit the escrow, whoever is ranked or placed how, and if the prize
    pool of the row is the balance of the escrow, they are what is shown. -/
theorem prizes_fit (s : Db) (escrow : EscrowAccount)
    (hfind : s.escrows.findOne escrow.escrowId = some escrow)
    (hbalance : 0 ≤ escrow.currentBalance) (hfair : FairFee escrow.platformFeePercent) :
    (∀ (m : Match) (participants : List MatchParticipant), m.source = escrow.escrowId →
      m.platformFeePercent = escrow.platformFeePercent → WholeStructure m.prizeStructure →
      ∃ dists, calculateMatchDistributionsByStrategy m participants (escrow.currentBalance -
          platformFeeOf escrow.currentBalance m.platformFeePercent) = .ok dists ∧
        FitsEscrow s escrow m.prizeStructure dists ∧
        (s.matchRows.findOne m.matchId = some m → m.prizePool = escrow.currentBalance →
          AsShown dists ((getPrizeInfo m.source).eval s))) ∧
    ∀ (x : Tournament) (registrations : List TournamentRegistration),
      x.source = escrow.escrowId → x.platformFeePercent = escrow.platformFeePercent →
      WholeStructure x.prizeStructure →
      ∃ dists, calculateTournamentDistributionsByStrategy x registrations (escrow.currentBalance -
          platformFeeOf escrow.currentBalance x.platformFeePercent) = .ok dists ∧
        FitsEscrow s escrow x.prizeStructure dists ∧
        (s.tournaments.findOne x.tournamentId = some x → x.prizePool = escrow.currentBalance →
          AsShown dists ((getPrizeInfo x.source).eval s)) := by
  refine ⟨fun m participants _ hpercent hwhole => ?_, fun x registrations _ hpercent hwhole => ?_⟩
  · have hstructure : m.payoutStructure = m.prizeStructure :=
      if_neg (by rw [List.isEmpty_iff]; exact hwhole.some_entry)
    rw [hpercent]
    change ∃ dists, calculateMatchDistributionsByStrategy m participants
      (distributableAmount escrow) = .ok dists ∧ _
    by_cases hwon : ∃ result, m.result = some result ∧ result.winnerIds ≠ []
    · rcases hwon with ⟨result, hresult, hwinners⟩
      refine ⟨_, ?_, fitsEscrow_of_shares hfind hbalance hfair hwhole
        (wholeMatchPayment result participants
          (rankParticipantsByResult m participants) (distributableAmount escrow))
        fun entry _ d hd => (wholeMatchPayment_same hd).1, fun hrow hpool => ?_⟩
      · rw [calculateMatch_eq hresult hwinners, hstructure]
        exact collectPayments_ok fun entry hentry =>
          matchPayment_whole fun _ => (hwhole.whole entry hentry).1.2
      · rw [getPrizeInfo_match hrow, hpool, hpercent]
        exact asShown_of_shares _ _ hwhole fun entry _ d hd => wholeMatchPayment_same hd
    · -- Nobody has won, and nobody is paid.
      refine ⟨[], calculateMatch_nil participants _ fun result hresult => ?_,
        fitsEscrow_nil hfind hbalance hfair hwhole, fun hrow hpool => ?_⟩
      · by_contra hwinners
        exact hwon ⟨result, hresult, hwinners⟩
      · rw [getPrizeInfo_match hrow, prizeInfo_whole _ _ _ _ fun e he => (hwhole.whole e he).1.2]
        exact ⟨_, rfl, .nil⟩
  · rw [hpercent]
    refine ⟨_, tournamentPayments_ok registrations _ hwhole.whole,
      fitsEscrow_of_shares hfind hbalance hfair hwhole _
        fun entry _ d hd => (wholeTournamentPayment_same hd).1, fun hrow hpool => ?_⟩
    rw [getPrizeInfo_tournament hrow, hpool, hpercent]
    exact asShown_of_shares _ _ hwhole fun entry _ d hd => wholeTournamentPayment_same hd

/-! ### A match of two -/

/-- A match that was won, with its pool in the escrow. -/
def wonMatch : Match where
  matchId := "m"
  tokenType := .SOL
  entryFee := 500
  minPlayers := 2
  maxPlayers := 2
  prizePool := 1001
  platformFeePercent := 5
  prizeStrategy := .CUSTOM
  riskLevel := .MEDIUM
  prizeStructure := [{ place := 1, percentage := 67 }, { place := 2, percentage := 33 }]
  status := .COMPLETED
  result := some ⟨["a"], none, none⟩

/-- The escrow of the witness. -/
def wonEscrow : EscrowAccount where
  escrowId := matchSource "m"
  tokenType := .SOL
  totalDeposited := 1001
  totalReleased := 0
  totalRefunded := 0
  platformFeeCollected := 0
  currentBalance := 1001
  status := .LOCKED
  platformFeePercent := 5

/-- The store of the witness. -/
def wonStore : Db :=
  { Db.empty with
    matchRows := Table.empty.save wonMatch
    escrows := Table.empty.save wonEscrow }

/-- Its payments fit the escrow and are what is shown. -/
theorem prizes_fit_wonMatch :
    ∃ dists, calculateMatchDistributionsByStrategy wonMatch
        [⟨"m", "a", 0, .FINISHED, none, 0⟩, ⟨"m", "b", 1, .FINISHED, none, 0⟩] 951 = .ok dists ∧
      FitsEscrow wonStore wonEscrow wonMatch.prizeStructure dists ∧
      AsShown dists ((getPrizeInfo (matchSource "m")).eval wonStore) := by
  have hwhole : WholeStructure wonMatch.prizeStructure :=
    ⟨by decide, by decide +kernel, by decide +kernel⟩
  have hfair : FairFee wonEscrow.platformFeePercent := by
    unfold FairFee
    decide +kernel
  rcases (prizes_fit wonStore wonEscrow (by decide +kernel) (by decide) hfair).1 wonMatch
    [⟨"m", "a", 0, .FINISHED, none, 0⟩, ⟨"m", "b", 1, .FINISHED, none, 0⟩] rfl rfl hwhole with
    ⟨dists, hdists, hfits, hshown⟩
  refine ⟨dists, ?_, hfits, hshown rfl rfl⟩
  rw [← hdists]
  congr 1
  decide +kernel

end Esports

end SvmCourse
