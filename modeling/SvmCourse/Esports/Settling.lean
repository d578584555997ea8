import SvmCourse.Esports.Agreement
import SvmCourse.Esports.Completion
import SvmCourse.Esports.Recipients
import SvmCourse.Esports.Solvency

/-!
# Settling a Match

Whether a match that is being played can be settled once a result passes the
checks of `submitResult`. The checks do not look at the prizes, and the match is
completed before the prizes are computed, so a payout that throws leaves it
completed for good.

The request objects bound the platform fee and the percentages, and every token
asks for a fee that is not small. So there is enough in the escrow for the
rounding of the shares not to matter, and a payout goes through exactly when
the percentages of the entries that are awarded are whole numbers which add up
to at most one hundred.

## Main definitions

* `CreateMatchRequest.Validated`: The checks of the request object.
* `MatchFunds`: What the escrow of a match holds while the match is played.
* `SettlesMatch`: The match is settled.

## Theorems

* `matchFunds_after`: Matches that are played are funded.
* `submitResult_settles_iff`: When a result settles its match.
-/

namespace SvmCourse

namespace Esports

open Core Core.Prog

/-! ### Request objects -/

/-- The checks of `CreateMatchDto` and `MatchPrizeStructureDto`. -/
structure CreateMatchRequest.Validated (request : CreateMatchRequest) : Prop where
  minPlayers : 2 ≤ request.minPlayers ∧ request.minPlayers ≤ 100
  maxPlayers : 2 ≤ request.maxPlayers ∧ request.maxPlayers ≤ 100
  platformFeePercent : 0 ≤ request.platformFeePercent ∧ request.platformFeePercent ≤ 50
  prizeStructure : ∀ entry ∈ request.prizeStructure.getD [],
    1 ≤ entry.place ∧ 0 ≤ entry.percentage ∧ entry.percentage ≤ 100

/-- Every match of the run is created from a validated request. -/
def Run.Validated (run : Run) : Prop :=
  ∀ call ∈ run, ∀ request, call.1 = .createMatch request → request.Validated

/-- What a validated request offers. -/
def ValidOffer (offer : Offer) : Prop :=
  offer.sourceType = .MATCH → 100000 ≤ offer.fee ∧
    (0 ≤ offer.platformFeePercent ∧ offer.platformFeePercent ≤ 50) ∧
      ∀ entry ∈ offer.prizeStructure, 0 ≤ entry.percentage

theorem entryFee_large {tokenType : SupportedToken} {amount : Int}
    (h : isValidEntryFee tokenType amount = true) : 100000 ≤ amount := by
  have hmin : 100000 ≤ (tokenConfig tokenType).minEntryFee := by
    cases tokenType <;> decide
  simp only [isValidEntryFee, Bool.and_eq_true, decide_eq_true_eq] at h
  omega

/-- The default structures have no negative percentages. -/
theorem default_percentage_nonneg (strategy : PrizeDistributionStrategy) :
    ∀ entry ∈ (prizeStrategyConfig strategy).structure_, 0 ≤ entry.percentage := by
  cases strategy <;> decide +kernel

theorem Run.Validated.offers {run : Run} (h : run.Validated) :
    ∀ call ∈ run, call.1.Offers ValidOffer := by
  intro call hmem
  have hcall := h call hmem
  generalize call.1 = c at hcall
  unfold Call.Offers
  split
  · next request =>
      have hvalid := hcall request rfl
      refine fun hfee _ => ⟨entryFee_large hfee, hvalid.platformFeePercent, fun entry hentry => ?_⟩
      change entry ∈ request.prizeStructure.getD _ at hentry
      -- Without a structure of its own the match gets a default one.
      cases hstructure : request.prizeStructure with
      | none =>
          rw [hstructure] at hentry
          exact default_percentage_nonneg _ entry hentry
      | some entries =>
          rw [hstructure] at hentry
          refine (hvalid.prizeStructure entry ?_).2.1
          rw [hstructure]
          exact hentry
  · exact fun _ _ hmatch => nomatch hmatch
  · trivial

/-! ### What is in the escrow -/

/-- A platform fee of at most half leaves at least half. -/
theorem platformFeeOf_le_half {balance : Int} {percent : ℚ} (hb : 0 ≤ balance) (h0 : 0 ≤ percent)
    (h1 : percent ≤ 50) : 2 * platformFeeOf balance percent ≤ balance := by
  have hround : 0 ≤ mathRound (percent * 100) := (mathRound_mem_Icc h0 (by linarith)).1
  -- The percentage is rounded to hundredths.
  have hfloor : mathRound (percent * 100) ≤ 5000 := by
    have hlt : percent * 100 + 1 / 2 < (5001 : ℤ) := by
      push_cast
      linarith
    have hfloor := Int.floor_lt.mpr hlt
    rw [mathRound]
    omega
  have hmul := Int.mul_le_mul_of_nonneg_left hfloor hb
  have hnonneg := Int.mul_nonneg hb hround
  unfold platformFeeOf
  rw [Int.tdiv_eq_ediv_of_nonneg hnonneg]
  omega

/-- The escrow of a match, locked and with enough in it, on the terms of its
    row. -/
structure MatchFunds (s : Db) (m : Match) (escrow : EscrowAccount) : Prop where
  find : s.escrows.findOne m.source = some escrow
  locked : escrow.status = .LOCKED
  large : 100000 ≤ escrow.currentBalance
  percent : escrow.platformFeePercent = m.platformFeePercent
  fee : 0 ≤ m.platformFeePercent ∧ m.platformFeePercent ≤ 50
  nonneg : ∀ entry ∈ m.payoutStructure, 0 ≤ entry.percentage

/-- What is left for the prizes. -/
def distributableAmount (escrow : EscrowAccount) : Int :=
  escrow.currentBalance - platformFeeOf escrow.currentBalance escrow.platformFeePercent

theorem MatchFunds.distributable {s : Db} {m : Match} {escrow : EscrowAccount}
    (h : MatchFunds s m escrow) : 10000 ≤ distributableAmount escrow := by
  have hlarge := h.large
  have hhalf : 2 * platformFeeOf escrow.currentBalance m.platformFeePercent ≤
      escrow.currentBalance :=
    platformFeeOf_le_half (by omega) h.fee.1 h.fee.2
  unfold distributableAmount
  rw [h.percent]
  omega

/-- After a run a match that is being played is funded, if its escrow is locked,
    and has a valid offer. -/
theorem funded_after {run : Run} (hrun : CalmRun run) (hvalid : run.Validated) {m : Match}
    {escrow : EscrowAccount} (hfind : (Db.empty.after run).matchRows.findOne m.matchId = some m)
    (hplaying : m.status = .IN_PROGRESS)
    (hescrow : (Db.empty.after run).escrows.findOne m.source = some escrow)
    (hlocked : escrow.status = .LOCKED) :
    ((Db.empty.after run).event m.source).Funded .LOCKED ∧ ValidOffer m.offer ∧
      escrow.currentBalance = ((Db.empty.after run).event m.source).due := by
  rcases (sound_after hrun hvalid.offers).2 m.source with ⟨hkept, hoffer⟩
  have hterms : ((Db.empty.after run).event m.source).toEventTerms = m.eventTerms :=
    eventTerms_match hfind
  have hphase : ((Db.empty.after run).event m.source).phase = .playing := by
    rw [hterms]
    exact congrArg MatchStatus.phase hplaying
  have hheld := escrow_of_find hescrow
  rw [hlocked] at hheld
  -- A locked escrow means that the match has not gone astray.
  have hstep := hkept.inStep hheld (Or.inr rfl)
  unfold Event.InStep at hstep
  rw [hphase] at hstep
  refine ⟨hstep, ?_, (Event.escrow_unique hheld hstep.escrow).2⟩
  have hmade := hoffer (by rw [hphase]; decide)
  rwa [hterms] at hmade

/-- After a run a match that is being played has its fees in its escrow, if the
    escrow is locked. -/
theorem matchFunds_after {run : Run} (hrun : CalmRun run) (hvalid : run.Validated) {m : Match}
    {escrow : EscrowAccount} (hfind : (Db.empty.after run).matchRows.findOne m.matchId = some m)
    (hplaying : m.status = .IN_PROGRESS)
    (hescrow : (Db.empty.after run).escrows.findOne m.source = some escrow)
    (hlocked : escrow.status = .LOCKED) : MatchFunds (Db.empty.after run) m escrow := by
  rcases funded_after hrun hvalid hfind hplaying hescrow hlocked with ⟨hstep, hvalid, hbalance⟩
  rcases hvalid rfl with ⟨hfee, hpercent, hnonneg⟩
  refine ⟨hescrow, hlocked, ?_, ?_, hpercent, fun entry hentry => ?_⟩
  · -- One entrant is enough.
    have hdue : ((Db.empty.after run).event m.source).due =
        m.entryFee * ((Db.empty.after run).event m.source).entrants := by
      unfold Event.due
      rw [show ((Db.empty.after run).event m.source).toEventTerms = m.eventTerms from
        eventTerms_match hfind]
      rfl
    have hpos : (1 : Int) ≤ ((Db.empty.after run).event m.source).entrants := by
      exact_mod_cast hstep.entrants_pos
    have hmul := Int.mul_le_mul_of_nonneg_left hpos (show 0 ≤ m.entryFee from by
      have : 100000 ≤ m.entryFee := hfee
      omega)
    rw [hbalance, hdue]
    have : 100000 ≤ m.entryFee := hfee
    omega
  · have hsolvent := (solvent_after hrun.accepted solvent_empty).1
    have hterms' : (Db.empty.after run).terms m.source = some m.terms := by
      simp [Db.terms, Match.source, matchSource, hfind]
    rcases (hsolvent.terms m.source m.terms hterms').2 with ⟨found, hfound, hsame⟩
    obtain rfl : found = escrow := Option.some.inj (hfound.symm.trans hescrow)
    exact hsame
  · unfold Match.payoutStructure at hentry
    split at hentry
    · exact default_percentage_nonneg _ entry hentry
    · exact hnonneg entry hentry

/-! ### Settling -/

section Settling

variable {s : Db} {m : Match} {request : SubmitResultRequest} {escrow : EscrowAccount}

/-- The entries the request awards. -/
def awardedBy (s : Db) (request : SubmitResultRequest) (m : Match) : List PrizeEntry :=
  m.awardedEntries request (request.playerIds s)

theorem mem_payoutStructure_of_awarded {entry : PrizeEntry} (h : entry ∈ awardedBy s request m) :
    entry ∈ m.payoutStructure := (mem_awardedEntries.mp h).2.1

theorem MatchFunds.canRelease (h : MatchFunds s m escrow) : escrow.canRelease = true := by
  have hpos : 0 < escrow.currentBalance := by
    have := h.large
    omega
  unfold EscrowAccount.canRelease
  rw [h.locked, decide_eq_true hpos]
  rfl

/-- With whole percentages that add up to at most one hundred the payout can
    go through. -/
theorem MatchFunds.ready (h : MatchFunds s m escrow)
    (hwhole : ∀ entry ∈ awardedBy s request m, entry.percentage.den = 1)
    (htotal : totalPercentage (awardedBy s request m) ≤ 100) :
    ¬PayoutRefused (resultPayout s request m) s := by
  have hamount := h.distributable
  -- The percentages are whole, so the payments can be computed.
  have hcalculated : (resultPayout s request m).calculate (escrow.currentBalance -
      platformFeeOf escrow.currentBalance (resultPayout s request m).platformFeePercent) =
        .ok (resultPayments m request (s.participantsOf request.matchId)
          (distributableAmount escrow)) := by
    rw [← matchPayments_ok _ _ hwhole]
    unfold distributableAmount
    rw [h.percent]
    rfl
  -- They add up to one hundred at most, so the balance suffices.
  have htotal_le : (paymentsOf (resultPayout s request m).source (resultPayments m request
      (s.participantsOf request.matchId) (distributableAmount escrow))).total ≤
        distributableAmount escrow := by
    rw [resultPayments_total]
    refine sum_shares_le (by omega) (fun entry hentry => ⟨?_, hwhole entry hentry⟩) htotal
    exact h.nonneg entry (mem_payoutStructure_of_awarded hentry)
  have hready : PayoutReady (resultPayout s request m) s escrow
      (platformFeeOf escrow.currentBalance escrow.platformFeePercent) _ :=
    ⟨h.find, rfl, h.canRelease, hcalculated, htotal_le⟩
  exact hready.not_refused

/-- Otherwise it is refused. -/
theorem MatchFunds.refused (h : MatchFunds s m escrow)
    (hnot : ¬((∀ entry ∈ awardedBy s request m, entry.percentage.den = 1) ∧
      totalPercentage (awardedBy s request m) ≤ 100)) :
    PayoutRefused (resultPayout s request m) s := by
  have hcalculated : (resultPayout s request m).calculate (escrow.currentBalance -
      platformFeeOf escrow.currentBalance (resultPayout s request m).platformFeePercent) =
        calculateMatchDistributionsByStrategy (afterResult m request)
          (s.participantsOf request.matchId) (distributableAmount escrow) := by
    unfold distributableAmount
    rw [h.percent]
    rfl
  refine Or.inr ⟨escrow, h.find, ?_⟩
  rw [hcalculated]
  by_cases hwhole : ∀ entry ∈ awardedBy s request m, entry.percentage.den = 1
  · -- The payments can be computed and are too much.
    have htotal : 100 < totalPercentage (awardedBy s request m) :=
      not_le.mp fun hle => hnot ⟨hwhole, hle⟩
    rw [matchPayments_ok _ _ hwhole]
    refine Or.inr ?_
    rw [resultPayments_total]
    refine sum_shares_gt h.distributable (fun entry hentry => ⟨?_, hwhole entry hentry⟩) htotal
    exact h.nonneg entry (mem_payoutStructure_of_awarded hentry)
  · -- The first percentage that is no whole number throws.
    push Not at hwhole
    rcases hwhole with ⟨entry, hentry, hden⟩
    rcases matchPayments_error _ (distributableAmount escrow) hentry hden with ⟨e, he⟩
    rw [he]
    trivial

/-- The call goes through, the match is settled and its escrow is released. -/
structure SettlesMatch (outcome : Except ServiceError Match × Db) (matchId : String) : Prop where
  succeeds : ∃ m, outcome.1 = .ok m
  row : ∃ m, outcome.2.matchRows.findOne matchId = some m ∧ m.status = .SETTLED
  escrow : ∃ escrow, outcome.2.escrows.findOne (matchSource matchId) = some escrow ∧
    escrow.status = .RELEASED

/-- A result settles its match unless the payout is refused. -/
theorem settles_iff_not_refused (hsubmit : Submittable s request m) :
    SettlesMatch ((submitResult request).eval s) request.matchId ↔
      ¬PayoutRefused (resultPayout s request m) s := by
  have hcalm := (ensures_false_iff ..).mp (submitResult_calm request s)
  have hkey : m.matchId = request.matchId := Table.key_of_findOne hsubmit.find
  rcases heval : (submitResult request).eval s with ⟨r, t⟩
  rw [heval] at hcalm
  rcases hcalm with ⟨-, -, hnot⟩ | ⟨m', hsubmit', hends⟩
  · exact absurd hsubmit (hnot m)
  obtain rfl : m' = m := Option.some.inj (hsubmit'.find.symm.trans hsubmit.find)
  cases r with
  | error e =>
      -- The call fails exactly if the payout is refused.
      refine ⟨fun hsettles => ?_, fun hno => absurd hends.2.1 hno⟩
      rcases hsettles.succeeds with ⟨row, hrow⟩
      exact nomatch hrow
  | ok row =>
      rcases hends with ⟨hreleased, hrecorded⟩
      refine ⟨fun _ => ?_, fun _ => ⟨⟨row, rfl⟩, ?_, ?_⟩⟩
      · rcases hreleased.find with ⟨escrow, fee, dists, hready, -⟩
        exact hready.not_refused
      · refine ⟨{ afterResult m' request with status := .SETTLED }, ?_, rfl⟩
        rw [← hkey]
        change t.matchRows.findOne _ = _
        rw [hrecorded.matchRows]
        exact Table.findOne_save_self s.matchRows
          { afterResult m' request with status := .SETTLED }
      · rcases hreleased.find with ⟨escrow, fee, dists, -, hfound⟩
        rw [← hkey]
        exact ⟨_, hfound, rfl⟩

end Settling

/-- A result that passes the checks settles its match if and only if the
    percentages it awards are whole numbers that add up to at most one
    hundred. -/
theorem submitResult_settles_iff {run : Run} (hrun : CalmRun run) (hvalid : run.Validated)
    {request : SubmitResultRequest} {m : Match} {escrow : EscrowAccount}
    (hsubmit : Submittable (Db.empty.after run) request m)
    (hescrow : (Db.empty.after run).escrows.findOne m.source = some escrow)
    (hlocked : escrow.status = .LOCKED) :
    SettlesMatch ((submitResult request).eval (Db.empty.after run)) request.matchId ↔
      (∀ entry ∈ awardedBy (Db.empty.after run) request m, entry.percentage.den = 1) ∧
        totalPercentage (awardedBy (Db.empty.after run) request m) ≤ 100 := by
  have hkey : m.matchId = request.matchId := Table.key_of_findOne hsubmit.find
  have hfind := hsubmit.find
  rw [← hkey] at hfind
  have hfunds := matchFunds_after hrun hvalid hfind hsubmit.playing hescrow hlocked
  rw [settles_iff_not_refused hsubmit]
  constructor
  · intro hno
    by_contra hnot
    exact hno (hfunds.refused hnot)
  · intro h
    exact hfunds.ready h.1 h.2

/-! ### Two matches -/

/-- What is checked of a match that is being played to see that a result can be
    submitted. -/
theorem submittable_of_facts (s : Db) (request : SubmitResultRequest) (entries : List PrizeEntry)
    (hmatch : ((s.matchRows.findOne request.matchId).map fun m => (m.status,
      (checkResult m request (request.playerIds s)).toOption, awardedBy s request m)) =
        some (.IN_PROGRESS, some (), entries))
    (hescrow : (s.escrows.findOne (matchSource request.matchId)).map EscrowAccount.status =
      some .LOCKED) :
    ∃ m escrow, Submittable s request m ∧ awardedBy s request m = entries ∧
      s.escrows.findOne m.source = some escrow ∧ escrow.status = .LOCKED := by
  rcases Option.map_eq_some_iff.mp hmatch with ⟨m, hfind, hfacts⟩
  rcases Option.map_eq_some_iff.mp hescrow with ⟨escrow, hheld, hlocked⟩
  have hkey : m.matchId = request.matchId := Table.key_of_findOne hfind
  simp only [Prod.mk.injEq] at hfacts
  rcases hfacts with ⟨hplaying, hchecked, hentries⟩
  refine ⟨m, escrow, ⟨hfind, hplaying, ?_⟩, hentries, ?_, hlocked⟩
  · change checkResult m request (request.playerIds s) = .ok ()
    -- What is known of the check is that it went through.
    cases hcheck : checkResult m request (request.playerIds s) with
    | ok u => rfl
    | error e =>
        rw [hcheck] at hchecked
        exact nomatch hchecked
  · unfold Match.source
    rw [hkey]
    exact hheld

/-- Three players in a match with a prize structure of their own. -/
def customMatch (prizeStructure : List PrizeEntry) : Run :=
  Run.calmly (fundPlayers ["a", "b", "c"] 5000000 ++
    [.createMatch { hex := "m", entryFee := 1000000, maxPlayers := 3, prizeStrategy := .CUSTOM,
                    prizeStructure := some prizeStructure },
     .joinMatch { matchId := "m", playerId := "a" },
     .joinMatch { matchId := "m", playerId := "b" },
     .joinMatch { matchId := "m", playerId := "c" },
     .startMatch "m" 0])

theorem customMatch_validated {prizeStructure : List PrizeEntry}
    (h : ∀ entry ∈ prizeStructure, 1 ≤ entry.place ∧ 0 ≤ entry.percentage ∧
      entry.percentage ≤ 100) :
    (customMatch prizeStructure).Validated := by
  intro call hmem request hcall
  have hrequests : ∀ call ∈ customMatch prizeStructure, ∀ request, call.1 = .createMatch request →
      request = { hex := "m", entryFee := 1000000, maxPlayers := 3, prizeStrategy := .CUSTOM,
                  prizeStructure := some prizeStructure } := by
    simp [customMatch, Run.calmly, fundPlayers]
  have hpercent : (0 : ℚ) ≤ 5 ∧ (5 : ℚ) ≤ 50 := by decide +kernel
  rw [hrequests call hmem request hcall]
  exact ⟨⟨le_refl 2, Nat.le_add_left ..⟩, ⟨Nat.le_add_left .., Nat.le_add_left ..⟩, hpercent, h⟩

/-- A winner takes half a percent more than half, so the match is completed
    and stays that way. -/
theorem not_settles_halfPercent :
    ∃ m escrow,
      let run := customMatch [{ place := 1, percentage := 101 / 2 },
        { place := 2, percentage := 99 / 2 }]
      let request : SubmitResultRequest := { matchId := "m", winnerIds := ["a"], now := 1 }
      CalmRun run ∧ run.Validated ∧ Submittable (Db.empty.after run) request m ∧
        (Db.empty.after run).escrows.findOne m.source = some escrow ∧ escrow.status = .LOCKED ∧
        ¬SettlesMatch ((submitResult request).eval (Db.empty.after run)) "m" := by
  have hfacts := submittable_of_facts
    (Db.empty.after (customMatch [{ place := 1, percentage := 101 / 2 },
      { place := 2, percentage := 99 / 2 }]))
    { matchId := "m", winnerIds := ["a"], now := 1 }
    [{ place := 1, percentage := 101 / 2 }, { place := 2, percentage := 99 / 2 }]
    (by decide +kernel) (by decide +kernel)
  rcases hfacts with ⟨m, escrow, hsubmit, -, hescrow, hlocked⟩
  refine ⟨m, escrow, calmRun_calmly (by decide) (by decide), customMatch_validated ?_, hsubmit,
    hescrow, hlocked, fun hsettles => ?_⟩
  · decide +kernel
  · rcases hsettles.row with ⟨row, hfind, hsettled⟩
    -- The result is saved before the payout is computed.
    have hcompleted : ((submitResult { matchId := "m", winnerIds := ["a"], now := 1 }).eval
        (Db.empty.after (customMatch [{ place := 1, percentage := 101 / 2 },
          { place := 2, percentage := 99 / 2 }]))).2.matchRows.rows.map Match.status =
            [.COMPLETED] := by
      decide +kernel
    have hmem := List.mem_map_of_mem (f := Match.status) (Table.mem_of_findOne hfind)
    rw [hcompleted, hsettled] at hmem
    exact absurd hmem (by decide)

/-- With sixty percent for the winner the match is settled. -/
theorem submitResult_settles_sixty :
    SettlesMatch ((submitResult { matchId := "m", winnerIds := ["a"], now := 1 }).eval
      (Db.empty.after (customMatch [{ place := 1, percentage := 60 },
        { place := 2, percentage := 40 }]))) "m" := by
  have hfacts := submittable_of_facts
    (Db.empty.after (customMatch [{ place := 1, percentage := 60 },
      { place := 2, percentage := 40 }]))
    { matchId := "m", winnerIds := ["a"], now := 1 }
    [{ place := 1, percentage := 60 }, { place := 2, percentage := 40 }]
    (by decide +kernel) (by decide +kernel)
  rcases hfacts with ⟨m, escrow, hsubmit, hentries, hescrow, hlocked⟩
  have hrun : CalmRun (customMatch [{ place := 1, percentage := 60 },
      { place := 2, percentage := 40 }]) := calmRun_calmly (by decide) (by decide)
  refine (submitResult_settles_iff hrun (customMatch_validated (by decide +kernel)) hsubmit hescrow
    hlocked).mpr ?_
  -- Both entries are awarded, and the shares are whole.
  rw [hentries]
  decide +kernel

end Esports

end SvmCourse
