import SvmCourse.Esports.Placements
import SvmCourse.Esports.Settling

/-!
# Leftovers

What a payout leaves in the escrow when the percentages of the prize structure
add up to one hundred. The shares are rounded down, which costs less than one
unit per entry. But an entry that finds nobody is not paid at all, and its
share stays behind: a place beyond the last participant, the MVP of a match
without one and of every tournament, all entries of a match nobody has won, and
in a tournament every place that is neither one nor a power of two, which
includes the third place of the default structure.

## Main definitions

* `OnlyDust`: Every entry worth something is awarded, or what is not awarded is
  worth next to nothing.
* `PayoutTerms`: The terms of a payout.
* `Db.awards`: The entry of a tournament finds somebody.

## Theorems

* `leftover_lt_iff`: The leftover against the number of entries.
* `onlyDust_iff_of_large`: With enough to distribute every entry must be
  awarded.
* `onlyDustLeft_iff`: What payouts leave behind is dust exactly when every
  entry worth something is awarded.
-/

namespace SvmCourse

namespace Esports

open Core Core.Prog

/-! ### Shares that are not paid -/

/-- The percentages that are not awarded. -/
def missingPercentage (entries : List PrizeEntry) (awarded : PrizeEntry → Bool) : Int :=
  ((entries.filter fun entry => !awarded entry).map fun entry => entry.percentage.num).sum

/-- What rounding cuts off the awarded shares, in hundredths. -/
def cutOff (amount : Int) (entries : List PrizeEntry) (awarded : PrizeEntry → Bool) : Int :=
  ((entries.filter awarded).map fun entry => amount * entry.percentage.num % 100).sum

/-- Every entry that is worth something is awarded, or the missing percentages
    of the amount and what was cut off are less than a unit per entry. -/
def OnlyDust (amount : Int) (entries : List PrizeEntry) (awarded : PrizeEntry → Bool) : Prop :=
  (∀ entry ∈ entries, 0 < entry.percentage → awarded entry = true) ∨
    amount * missingPercentage entries awarded + cutOff amount entries awarded <
      100 * entries.length

section Leftover

variable {amount : Int} {entries : List PrizeEntry} {awarded : PrizeEntry → Bool}

/-- The amount goes to the awarded entries, to what is cut off them, and to
    nobody. -/
theorem split_amount (awarded : PrizeEntry → Bool) (hamount : 0 ≤ amount)
    (hwhole : ∀ entry ∈ entries, entry.IsWhole) :
    amount * (entries.map fun entry => entry.percentage.num).sum =
      100 * ((entries.filter awarded).map (entryShare amount)).sum +
        (amount * missingPercentage entries awarded + cutOff amount entries awarded) := by
  unfold missingPercentage cutOff
  -- On the entries: each adds its share to one of the two sides.
  induction entries with
  | nil => simp
  | cons entry entries ih =>
      have hrest := ih fun e he => hwhole e (List.mem_cons_of_mem _ he)
      have hone := entryShare_eq_ediv hamount (hwhole entry List.mem_cons_self)
      rw [List.map_cons, List.sum_cons, Int.mul_add, hrest]
      cases hawarded : awarded entry with
      | true =>
          simp only [List.filter_cons, hawarded, Bool.not_true, Bool.false_eq_true,
            if_true, if_false,
            List.map_cons, List.sum_cons, hone]
          omega
      | false =>
          simp only [List.filter_cons, hawarded, Bool.not_false, Bool.false_eq_true,
            if_true, if_false,
            List.map_cons, List.sum_cons, Int.mul_add]
          omega

theorem missingPercentage_nonneg (awarded : PrizeEntry → Bool)
    (hwhole : ∀ entry ∈ entries, entry.IsWhole) :
    0 ≤ missingPercentage entries awarded := by
  refine List.sum_nonneg fun v hv => ?_
  rcases List.mem_map.mp hv with ⟨entry, hentry, rfl⟩
  exact Rat.num_nonneg.mpr (hwhole entry (List.mem_of_mem_filter hentry)).1

/-- Nothing is missing when every entry worth something is awarded. -/
theorem missingPercentage_eq_zero (hwhole : ∀ entry ∈ entries, entry.IsWhole)
    (hall : ∀ entry ∈ entries, 0 < entry.percentage → awarded entry = true) :
    missingPercentage entries awarded = 0 := by
  refine List.sum_eq_zero fun v hv => ?_
  rcases List.mem_map.mp hv with ⟨entry, hentry, rfl⟩
  rcases List.mem_filter.mp hentry with ⟨hmem, hnot⟩
  by_contra hne
  have hnum : 0 < entry.percentage.num :=
    lt_of_le_of_ne (Rat.num_nonneg.mpr (hwhole entry hmem).1) (Ne.symm hne)
  rw [hall entry hmem (Rat.num_pos.mp hnum)] at hnot
  exact nomatch hnot

/-- Otherwise at least one percent is. -/
theorem missingPercentage_pos (hwhole : ∀ entry ∈ entries, entry.IsWhole) {entry : PrizeEntry}
    (hentry : entry ∈ entries) (hworth : 0 < entry.percentage) (hnot : awarded entry = false) :
    1 ≤ missingPercentage entries awarded := by
  have hnum : 0 < entry.percentage.num := Rat.num_pos.mpr hworth
  have hmem : entry.percentage.num ∈
      (entries.filter fun e => !awarded e).map fun e => e.percentage.num :=
    List.mem_map_of_mem (List.mem_filter.mpr ⟨hentry, by rw [hnot]; rfl⟩)
  have hle := List.single_le_sum (fun v hv => ?_) _ hmem
  · unfold missingPercentage
    omega
  · rcases List.mem_map.mp hv with ⟨e, he, rfl⟩
    exact Rat.num_nonneg.mpr (hwhole e (List.mem_of_mem_filter he)).1

/-- An entry loses less than a unit. -/
theorem cutOff_bounds (amount : Int) (entries : List PrizeEntry) (awarded : PrizeEntry → Bool) :
    0 ≤ cutOff amount entries awarded ∧
      cutOff amount entries awarded ≤ 99 * entries.length := by
  unfold cutOff
  induction entries with
  | nil => simp
  | cons entry entries ih =>
      rw [List.length_cons]
      -- A share is cut off by less than a hundredth part of a hundred.
      by_cases hawarded : awarded entry = true
      · rw [List.filter_cons_of_pos hawarded, List.map_cons, List.sum_cons]
        push_cast
        omega
      · rw [List.filter_cons_of_neg hawarded]
        push_cast
        omega

/-- A leftover is never negative, and it is less than one unit per entry
    exactly when it is only dust. -/
theorem leftover_lt_iff (awarded : PrizeEntry → Bool) (hamount : 0 ≤ amount)
    (hwhole : ∀ entry ∈ entries, entry.IsWhole) (htotal : totalPercentage entries = 100) :
    0 ≤ amount - ((entries.filter awarded).map (entryShare amount)).sum ∧
      (amount - ((entries.filter awarded).map (entryShare amount)).sum < entries.length ↔
        OnlyDust amount entries awarded) := by
  have hsplit := split_amount awarded hamount hwhole
  have hsum : (entries.map fun entry => entry.percentage.num).sum = 100 := by
    rw [totalPercentage_num hwhole] at htotal
    exact_mod_cast htotal
  have hpos : 0 < entries.length := by
    cases entries with
    | nil => simp at hsum
    | cons entry entries => simp
  have hmissing := Int.mul_nonneg hamount (missingPercentage_nonneg awarded hwhole)
  -- What is left is what was cut off and what nobody was awarded.
  have hcut := cutOff_bounds amount entries awarded
  rw [hsum] at hsplit
  refine ⟨by omega, fun hlt => Or.inr (by omega), fun hdust => ?_⟩
  rcases hdust with hall | hdust
  · rw [missingPercentage_eq_zero hwhole hall, Int.mul_zero] at hsplit
    omega
  · omega

/-- With enough to distribute, only dust is left exactly when every entry worth
    something is awarded. -/
theorem onlyDust_iff_of_large (hlarge : 100 * (entries.length : Int) ≤ amount)
    (hwhole : ∀ entry ∈ entries, entry.IsWhole) : OnlyDust amount entries awarded ↔
      ∀ entry ∈ entries, 0 < entry.percentage → awarded entry = true := by
  refine ⟨fun hdust entry hentry hworth => ?_, Or.inl⟩
  rcases hdust with hall | hdust
  · exact hall entry hentry hworth
  · by_contra hnot
    rw [Bool.not_eq_true] at hnot
    have hmissing := missingPercentage_pos hwhole hentry hworth hnot
    have hmul := Int.mul_le_mul_of_nonneg_left hmissing (show 0 ≤ amount by omega)
    have hcut := (cutOff_bounds amount entries awarded).1
    omega

end Leftover

/-! ### What a payout leaves -/

/-- The terms of a payout whose percentages are whole numbers adding up to one
    hundred. -/
structure PayoutTerms (s : Db) (source : SourceId) (platformFeePercent : ℚ)
    (entries : List PrizeEntry) (escrow : EscrowAccount) : Prop where
  find : s.escrows.findOne source = some escrow
  percent : escrow.platformFeePercent = platformFeePercent
  fee : FairFee platformFeePercent
  whole : ∀ entry ∈ entries, entry.IsWhole
  total : totalPercentage entries = 100

/-- The escrow holds less than one unit per entry. -/
def OnlyDustLeft (t : Db) (source : SourceId) (entries : List PrizeEntry) : Prop :=
  ∃ escrow, t.escrows.findOne source = some escrow ∧ 0 ≤ escrow.currentBalance ∧
    escrow.currentBalance < entries.length

/-- What a payout leaves behind, given what it pays. -/
theorem onlyDustLeft_of_released {payout : Payout} {s t : Db} {entries : List PrizeEntry}
    {escrow : EscrowAccount} (awarded : PrizeEntry → Bool) (hreleased : Released payout s t)
    (hterms : PayoutTerms s payout.source payout.platformFeePercent entries escrow)
    (hpaid : ∀ dists, payout.calculate (distributableAmount escrow) = .ok dists →
      (paymentsOf payout.source dists).total =
        ((entries.filter awarded).map (entryShare (distributableAmount escrow))).sum) :
    OnlyDustLeft t payout.source entries ↔
      OnlyDust (distributableAmount escrow) entries awarded := by
  rcases hreleased.find with ⟨found, fee, dists, hready, hleft⟩
  obtain rfl : found = escrow := Option.some.inj (hready.find.symm.trans hterms.find)
  have hpos : 0 < found.currentBalance := by
    have hcan := hready.canRelease
    unfold EscrowAccount.canRelease at hcan
    rw [Bool.and_eq_true, decide_eq_true_eq, decide_eq_true_eq] at hcan
    exact hcan.2
  -- The fee is at most the balance, so there is something to divide.
  have hamount : 0 ≤ distributableAmount found := by
    have hle := platformFeeOf_le (Int.le_of_lt hpos) hterms.fee.1 hterms.fee.2
    unfold distributableAmount
    rw [hterms.percent]
    omega
  have htotal := hpaid dists (by
    rw [← hready.calculated]
    unfold distributableAmount
    rw [hterms.percent])
  -- What the payout leaves is the amount less the shares of the awarded entries.
  have hbalance : (found.afterRelease (paymentsOf payout.source dists).total fee).currentBalance =
      distributableAmount found -
        ((entries.filter awarded).map (entryShare (distributableAmount found))).sum := by
    rw [← htotal, hready.fee_eq]
    change found.currentBalance - (paymentsOf payout.source dists).total -
      platformFeeOf found.currentBalance found.platformFeePercent = _
    unfold distributableAmount
    omega
  rcases leftover_lt_iff awarded hamount hterms.whole hterms.total with ⟨hnonneg, hiff⟩
  rw [← hiff]
  constructor
  · intro hdust
    rcases hdust with ⟨escrow', hfind, -, hlt⟩
    obtain rfl := Option.some.inj (hfind.symm.trans hleft)
    rwa [hbalance] at hlt
  · intro hlt
    refine ⟨_, hleft, ?_, ?_⟩
    · rw [hbalance]
      exact hnonneg
    · rw [hbalance]
      exact hlt

/-! ### Matches -/

/-- What a settled match leaves behind. -/
theorem matchLeftover {s : Db} {m : Match} {request : SubmitResultRequest} {escrow : EscrowAccount}
    (hsubmit : Submittable s request m)
    (hterms : PayoutTerms s m.source m.platformFeePercent m.payoutStructure escrow)
    (hsettles : SettlesMatch ((submitResult request).eval s) request.matchId) :
    OnlyDustLeft ((submitResult request).eval s).2 m.source m.payoutStructure ↔
      OnlyDust (distributableAmount escrow) m.payoutStructure fun entry =>
        request.winnerIds ≠ [] && entry.awarded request.mvpPlayerId (request.playerIds s) := by
  have hreleased : Released (resultPayout s request m) s ((submitResult request).eval s).2 := by
    have hcalm := (ensures_false_iff ..).mp (submitResult_calm request s)
    rcases hcalm with ⟨-, -, hnot⟩ | ⟨m', hsubmit', hends⟩
    · exact absurd hsubmit (hnot m)
    obtain rfl : m' = m := Option.some.inj (hsubmit'.find.symm.trans hsubmit.find)
    rcases hsettles.succeeds with ⟨row, hrow⟩
    rw [hrow] at hends
    exact hends.1
  refine onlyDustLeft_of_released _ hreleased hterms fun dists hdists => ?_
  -- The entries of a match are awarded when there is a winner at all.
  have hawarded : m.awardedEntries request (request.playerIds s) =
      m.payoutStructure.filter fun entry => request.winnerIds ≠ [] &&
        entry.awarded request.mvpPlayerId (request.playerIds s) := by
    unfold Match.awardedEntries
    by_cases hwinners : request.winnerIds = []
    · simp [hwinners]
    · simp [hwinners]
  have hpayments : calculateMatchDistributionsByStrategy (afterResult m request)
      (s.participantsOf request.matchId) (distributableAmount escrow) =
        .ok (resultPayments m request (s.participantsOf request.matchId)
          (distributableAmount escrow)) :=
    matchPayments_ok _ _ fun entry hentry =>
      (hterms.whole entry (mem_awardedEntries.mp hentry).2.1).2
  obtain rfl := Except.ok.inj (hpayments.symm.trans hdists)
  rw [resultPayments_total]
  exact congrArg (fun l : List PrizeEntry =>
    (l.map (entryShare (distributableAmount escrow))).sum) hawarded

/-! ### Tournaments -/

/-- Recording results leaves the final alone in its round. -/
theorem oneFinal_recordResults {bracket : Bracket} (h : bracket.OneFinal)
    (results : List BracketResult) : (recordResults bracket results).OneFinal := by
  unfold recordResults
  induction results generalizing bracket with
  | nil => exact h
  | cons result results ih =>
      refine ih ?_
      rcases h with ⟨m, hm⟩
      rcases Option.map_eq_some_iff.mp hm with ⟨round, hround, hsingle⟩
      unfold Bracket.OneFinal recordResult
      rw [List.getLast?_map, hround, Option.map_some, Option.map_some, hsingle, recordInRound]
      -- Whether a match is in the last round or not, the round keeps its length.
      split
      · exact ⟨_, rfl⟩
      · exact ⟨_, rfl⟩

/-- The entry of a tournament finds a registered player, given the bracket with
    the last results. The bracket places its players, and who is not among them
    keeps the placement he has. -/
def Db.awards (db : Db) (x : Tournament) (recorded : Bracket) (entry : PrizeEntry) : Bool :=
  !entry.isMvp && (db.registrations.find fun r => r.tournamentId = x.tournamentId).any fun r =>
    (recorded.placeOf r.playerId).or r.finalPlacement = some entry.place

theorem placementOf_mem {s : Db} {tournamentId : String} {r : TournamentRegistration}
    (h : r ∈ s.registrations.find fun r => r.tournamentId = tournamentId) :
    s.registrations.findOne (tournamentId, r.playerId) = some r ∧
      s.placementOf tournamentId r.playerId = r.finalPlacement := by
  unfold Table.find at h
  rw [List.mem_filter, decide_eq_true_eq] at h
  have hfind : s.registrations.findOne (tournamentId, r.playerId) = some r := by
    have hkey := Table.findOne_of_mem h.1
    unfold TournamentRegistration.key at hkey
    rwa [h.2] at hkey
  refine ⟨hfind, ?_⟩
  unfold Db.placementOf
  rw [hfind, Option.bind_some]

/-- Somebody has the place after the bracket has placed its players. -/
theorem placedRegistrations_any {s : Db} {x : Tournament} {recorded : Bracket}
    (hbracket : x.bracket = some recorded) (hfinal : recorded.OneFinal) (place : ℚ) :
    ((s.placedRegistrations x).any fun r => r.finalPlacement = some place) =
      (s.registrations.find fun r => r.tournamentId = x.tournamentId).any fun r =>
        (recorded.placeOf r.playerId).or r.finalPlacement = some place := by
  have hplaced := (ensures_false_iff ..).mp (placeAll_ensures x.tournamentId
    (finalPlacements (x.bracket.getD ⟨[]⟩)).rows (finalPlacements (x.bracket.getD ⟨[]⟩)).unique s)
  have hview := (ensures_false_iff ..).mp (rewriteAll_view
    (finalPlacements (x.bracket.getD ⟨[]⟩)).rows (placeRegistration_rewrites x.tournamentId) s)
  obtain ⟨u, hu⟩ : ∃ u, u = ((calculateFinalPlacements x).eval s).2 := ⟨_, rfl⟩
  have hstore : ((each (finalPlacements (x.bracket.getD ⟨[]⟩)).rows
      (placeRegistration x.tournamentId)).eval s).2 = u := hu.symm
  rw [hstore] at hplaced hview
  have hrows := hview.2.1
  simp only [lifeView, Prod.mk.injEq] at hrows
  have hregistrations := hrows.2.2.2.1
  -- The place of a player is the one of the bracket, or else the one they had.
  have hplace : ∀ p, s.isRegistered x.tournamentId p → u.isRegistered x.tournamentId p ∧
      u.placementOf x.tournamentId p =
        (recorded.placeOf p).or (s.placementOf x.tournamentId p) := by
    intro p hp
    rw [← finalPlacements_eq hfinal]
    have hone := hplaced.2.2 p hp
    rw [hbracket] at hone
    exact hone
  have hlist : s.placedRegistrations x =
      u.registrations.find fun r => r.tournamentId = x.tournamentId := by
    unfold Db.placedRegistrations
    rw [hu]
  rw [hlist, Bool.eq_iff_iff, List.any_eq_true, List.any_eq_true]
  -- Both directions follow a registration to the one with its key in the other store.
  constructor
  · intro h
    rcases h with ⟨r, hr, hof⟩
    have hkey : (r.key, r.status) ∈ u.registrations.rows.map fun r => (r.key, r.status) :=
      List.mem_map_of_mem (List.mem_of_mem_filter hr)
    rw [hregistrations] at hkey
    rcases List.mem_map.mp hkey with ⟨r', hr', hsame⟩
    have hids : r'.tournamentId = r.tournamentId ∧ r'.playerId = r.playerId := by
      simpa [TournamentRegistration.key] using congrArg Prod.fst hsame
    have hmem : r' ∈ s.registrations.find fun r => r.tournamentId = x.tournamentId := by
      refine List.mem_filter.mpr ⟨hr', ?_⟩
      rw [hids.1]
      exact (List.mem_filter.mp hr).2
    have hboth := (hplace r'.playerId ⟨r', (placementOf_mem hmem).1⟩).2
    rw [(placementOf_mem hmem).2, hids.2, (placementOf_mem hr).2] at hboth
    refine ⟨r', hmem, ?_⟩
    rw [hids.2, ← hboth]
    exact hof
  · intro h
    rcases h with ⟨r', hr', hof⟩
    rcases hplace r'.playerId ⟨r', (placementOf_mem hr').1⟩ with ⟨⟨r, hfind⟩, hboth⟩
    have hkey := Table.key_of_findOne hfind
    unfold TournamentRegistration.key at hkey
    rw [Prod.mk.injEq] at hkey
    have hmem : r ∈ u.registrations.find fun r => r.tournamentId = x.tournamentId :=
      List.mem_filter.mpr ⟨Table.mem_of_findOne hfind, decide_eq_true hkey.1⟩
    refine ⟨r, hmem, ?_⟩
    rw [(placementOf_mem hr').2, ← hkey.2, (placementOf_mem hmem).2] at hboth
    rw [hboth, hkey.2]
    exact hof

/-- The call goes through and completes the tournament. -/
def Completes (outcome : Except ServiceError Tournament × Db) : Prop :=
  ∃ y, outcome.1 = .ok y ∧ y.status = .COMPLETED

/-- Completing a tournament pays it out. -/
theorem released_of_completes {s : Db} {x : Tournament} {bracket : Bracket}
    {request : AdvanceRoundRequest} (hfind : s.tournaments.findOne request.tournamentId = some x)
    (hstatus : x.status = .IN_PROGRESS) (hbracket : x.bracket = some bracket)
    (hcompletes : Completes ((advanceRound request).eval s)) :
    let x' := completedTournament x (recordResults bracket request.results) request.now
    ∃ u, Released (tournamentPayout x' (s.placedRegistrations x')) s u ∧
      ((advanceRound request).eval s).2.escrows = u.escrows := by
  intro x'
  rw [advanceRound_settles request hfind hstatus hbracket] at hcompletes ⊢
  unfold settleRound at hcompletes ⊢
  by_cases hfinal : finalDecided (recordResults bracket request.results) = true
  · rw [if_pos hfinal] at hcompletes ⊢
    have hcalm := (ensures_false_iff ..).mp (completeTournament_calm x' s)
    rcases heval : (completeTournament x').eval s with ⟨r, u⟩
    rw [heval] at hcalm
    cases r with
    | ok _ =>
        -- The final is decided, and completing the tournament is what pays.
        rw [bind_eq, eval_bind_ok heval]
        exact ⟨u, hcalm.2, rfl⟩
    | error e =>
        rw [bind_eq, eval_bind_error heval] at hcompletes
        rcases hcompletes with ⟨y, hy, -⟩
        exact nomatch hy
  · -- Without a final the tournament stays in progress.
    rw [if_neg hfinal] at hcompletes
    rcases hcompletes with ⟨y, hy, hcompleted⟩
    rw [← Except.ok.inj hy] at hcompleted
    exact nomatch hstatus.symm.trans hcompleted

/-- What a completed tournament leaves behind. -/
theorem tournamentLeftover {s : Db} {x : Tournament} {bracket : Bracket}
    {request : AdvanceRoundRequest} {escrow : EscrowAccount}
    (hfind : s.tournaments.findOne request.tournamentId = some x)
    (hstatus : x.status = .IN_PROGRESS) (hbracket : x.bracket = some bracket)
    (hfinal : bracket.OneFinal)
    (hterms : PayoutTerms s x.source x.platformFeePercent x.prizeStructure escrow)
    (hfixed : ∀ entry ∈ x.prizeStructure, entry.fixedAmount = none)
    (hcompletes : Completes ((advanceRound request).eval s)) :
    OnlyDustLeft ((advanceRound request).eval s).2 x.source x.prizeStructure ↔
      OnlyDust (distributableAmount escrow) x.prizeStructure
        (s.awards x (recordResults bracket request.results)) := by
  rcases released_of_completes hfind hstatus hbracket hcompletes with ⟨u, hreleased, hescrows⟩
  have hleft := onlyDustLeft_of_released (s.awards x (recordResults bracket request.results))
    hreleased hterms fun dists hdists => ?_
  · unfold OnlyDustLeft at hleft ⊢
    rw [hescrows]
    exact hleft
  · have hpayments := tournamentPayments_ok
      (t := completedTournament x (recordResults bracket request.results) request.now)
      (s.placedRegistrations (completedTournament x (recordResults bracket request.results)
        request.now)) (distributableAmount escrow)
      fun entry hentry => ⟨hterms.whole entry hentry, hfixed entry hentry⟩
    obtain rfl := Except.ok.inj (hpayments.symm.trans hdists)
    rw [paymentsOf_total, sum_payments_eq fun entry _ d hd => wholeTournamentPayment_amount hd]
    refine congrArg (fun l : List PrizeEntry =>
      (l.map (entryShare (distributableAmount escrow))).sum) ?_
    -- An entry has a recipient exactly if somebody has its place.
    refine List.filter_congr fun entry _ => ?_
    have hany := placedRegistrations_any (s := s)
      (x := completedTournament x (recordResults bracket request.results) request.now) rfl
      (oneFinal_recordResults hfinal request.results) entry.place
    unfold wholeTournamentPayment Db.awards
    cases entry.isMvp with
    | true => rfl
    | false =>
        rw [if_neg Bool.false_ne_true, Option.isSome_map, ranked_find_isSome, Bool.not_false,
          Bool.true_and]
        exact hany

/-! ### No prize money is stranded -/

/-- What a settled match and a completed tournament leave behind is dust exactly
    when every entry worth something finds somebody, unless what does not is
    dust itself. -/
theorem onlyDustLeft_iff (s : Db) :
    (∀ (request : SubmitResultRequest) (m : Match) (escrow : EscrowAccount),
      Submittable s request m →
      PayoutTerms s m.source m.platformFeePercent m.payoutStructure escrow →
      SettlesMatch ((submitResult request).eval s) request.matchId →
      (OnlyDustLeft ((submitResult request).eval s).2 m.source m.payoutStructure ↔
        OnlyDust (distributableAmount escrow) m.payoutStructure fun entry =>
          request.winnerIds ≠ [] && entry.awarded request.mvpPlayerId (request.playerIds s))) ∧
    ∀ (request : AdvanceRoundRequest) (x : Tournament) (bracket : Bracket)
      (escrow : EscrowAccount),
      s.tournaments.findOne request.tournamentId = some x → x.status = .IN_PROGRESS →
      x.bracket = some bracket → bracket.OneFinal →
      PayoutTerms s x.source x.platformFeePercent x.prizeStructure escrow →
      (∀ entry ∈ x.prizeStructure, entry.fixedAmount = none) →
      Completes ((advanceRound request).eval s) →
      (OnlyDustLeft ((advanceRound request).eval s).2 x.source x.prizeStructure ↔
        OnlyDust (distributableAmount escrow) x.prizeStructure
          (s.awards x (recordResults bracket request.results))) :=
  ⟨fun _ _ _ hsubmit hterms hsettles => matchLeftover hsubmit hterms hsettles,
    fun _ _ _ _ hfind hstatus hbracket hfinal hterms hfixed hcompletes =>
      tournamentLeftover hfind hstatus hbracket hfinal hterms hfixed hcompletes⟩

/-- What is checked of a tournament in progress to see that its escrow is on its
    terms. -/
theorem payoutTerms_of_facts {s : Db} {tournamentId : String} (percent : ℚ)
    {entries : List PrizeEntry}
    (hrow : ((s.tournaments.findOne tournamentId).map fun x =>
      (x.status, x.platformFeePercent, x.prizeStructure)) = some (.IN_PROGRESS, percent, entries))
    (hescrow : (s.escrows.findOne (tournamentSource tournamentId)).map
      EscrowAccount.platformFeePercent = some percent)
    (hfee : 0 ≤ percent ∧ percent ≤ 100) (hwhole : ∀ entry ∈ entries, entry.IsWhole)
    (htotal : totalPercentage entries = 100) :
    ∃ x escrow, s.tournaments.findOne tournamentId = some x ∧ x.status = .IN_PROGRESS ∧
      x.prizeStructure = entries ∧
      PayoutTerms s x.source x.platformFeePercent x.prizeStructure escrow := by
  rcases Option.map_eq_some_iff.mp hrow with ⟨x, hfind, hfacts⟩
  rcases Option.map_eq_some_iff.mp hescrow with ⟨escrow, hheld, hpercent⟩
  have hkey : x.tournamentId = tournamentId := Table.key_of_findOne hfind
  simp only [Prod.mk.injEq] at hfacts
  rcases hfacts with ⟨hstatus, rfl, rfl⟩
  refine ⟨x, escrow, hfind, hstatus, rfl, ?_, hpercent, hfee, hwhole, htotal⟩
  unfold Tournament.source
  rw [hkey]
  exact hheld

/-- Four players of whom two have won their semi-finals. -/
def finalists : Db :=
  ((advanceRound
    { tournamentId := "t"
      results := [⟨⟨1, 1, "m"⟩, "a"⟩, ⟨⟨1, 2, "m"⟩, "c"⟩]
      now := 0 }).eval (startedTournament ["a", "b", "c", "d"])).2

/-- The first of them wins the final. -/
def finalReport : AdvanceRoundRequest :=
  { tournamentId := "t", results := [⟨⟨2, 1, "m"⟩, "a"⟩], now := 1 }

theorem finalists_terms : ∃ x escrow, finalists.tournaments.findOne "t" = some x ∧
    x.status = .IN_PROGRESS ∧
    x.prizeStructure = (prizeStrategyConfig .TOP_3_SPLIT).structure_ ∧
    PayoutTerms finalists x.source x.platformFeePercent x.prizeStructure escrow :=
  payoutTerms_of_facts 5 (by decide +kernel) (by decide +kernel) (by decide +kernel)
    (by decide +kernel) (by decide +kernel)

theorem finalReport_completes : Completes ((advanceRound finalReport).eval finalists) := by
  have hfacts : ((advanceRound finalReport).eval finalists).1.toOption.map Tournament.status =
      some .COMPLETED := by
    decide +kernel
  rcases Option.map_eq_some_iff.mp hfacts with ⟨y, hy, hcompleted⟩
  refine ⟨y, ?_, hcompleted⟩
  cases hresult : ((advanceRound finalReport).eval finalists).1 with
  | error e =>
      rw [hresult] at hy
      exact nomatch hy
  | ok y' =>
      rw [hresult] at hy
      exact congrArg _ (Option.some.inj hy)

/-- Nobody of four players is third, and the prize for the third place stays in
    the escrow. -/
theorem not_onlyDustLeft_thirdPlace :
    ∃ x escrow, finalists.tournaments.findOne "t" = some x ∧ x.status = .IN_PROGRESS ∧
      PayoutTerms finalists x.source x.platformFeePercent x.prizeStructure escrow ∧
      (∀ entry ∈ x.prizeStructure, entry.fixedAmount = none) ∧
      Completes ((advanceRound finalReport).eval finalists) ∧
      ¬OnlyDustLeft ((advanceRound finalReport).eval finalists).2 x.source x.prizeStructure := by
  rcases finalists_terms with ⟨x, escrow, hfind, hstatus, hentries, hterms⟩
  refine ⟨x, escrow, hfind, hstatus, hterms, ?_, finalReport_completes, fun hdust => ?_⟩
  · rw [hentries]
    decide +kernel
  · rcases hdust with ⟨left, hleft, -, hlt⟩
    -- The share of the third place is still there.
    have hbalance : (((advanceRound finalReport).eval finalists).2.escrows.findOne
        (tournamentSource "t")).map EscrowAccount.currentBalance = some 380000 := by
      decide +kernel
    have hkey : x.tournamentId = "t" := Table.key_of_findOne hfind
    unfold Tournament.source at hleft
    rw [hkey] at hleft
    rw [hleft, Option.map_some] at hbalance
    have hlength : x.prizeStructure.length = 3 := by rw [hentries]; rfl
    rw [hlength, Option.some.inj hbalance] at hlt
    exact absurd hlt (by decide)

/-- Three players, of whom the first two are paid. -/
def twoPlaces : Db :=
  Db.empty.after (customMatch [{ place := 1, percentage := 60 }, { place := 2, percentage := 40 }])

/-- A result with one winner, where the prizes name two places. -/
def twoPlacesResult : SubmitResultRequest := { matchId := "m", winnerIds := ["a"], now := 1 }

theorem twoPlaces_settles : SettlesMatch ((submitResult twoPlacesResult).eval twoPlaces) "m" := by
  have hrow : (((submitResult twoPlacesResult).eval twoPlaces).2.matchRows.findOne "m").map
      Match.status = some .SETTLED := by
    decide +kernel
  have hescrow : (((submitResult twoPlacesResult).eval twoPlaces).2.escrows.findOne
      (matchSource "m")).map EscrowAccount.status = some .RELEASED := by
    decide +kernel
  have hsucceeds : ((submitResult twoPlacesResult).eval twoPlaces).1.toBool = true := by
    decide +kernel
  refine ⟨?_, Option.map_eq_some_iff.mp hrow, Option.map_eq_some_iff.mp hescrow⟩
  -- The call succeeds, and leaves both rows at their ends.
  cases hresult : ((submitResult twoPlacesResult).eval twoPlaces).1 with
  | ok m => exact ⟨m, rfl⟩
  | error e =>
      rw [hresult] at hsucceeds
      exact nomatch hsucceeds

theorem twoPlaces_terms : ∃ m escrow, Submittable twoPlaces twoPlacesResult m ∧
    m.payoutStructure = [{ place := 1, percentage := 60 }, { place := 2, percentage := 40 }] ∧
    PayoutTerms twoPlaces m.source m.platformFeePercent m.payoutStructure escrow := by
  have hfacts := submittable_of_facts twoPlaces twoPlacesResult
    [{ place := 1, percentage := 60 }, { place := 2, percentage := 40 }]
    (by decide +kernel) (by decide +kernel)
  rcases hfacts with ⟨m, escrow, hsubmit, -, hescrow, -⟩
  -- Both rows are read off the store.
  have hrow : ((twoPlaces.matchRows.findOne "m").map fun m =>
      (m.platformFeePercent, m.payoutStructure)) =
        some (5, [{ place := 1, percentage := 60 }, { place := 2, percentage := 40 }]) := by
    decide +kernel
  have hpercent : (twoPlaces.escrows.findOne (matchSource "m")).map
      EscrowAccount.platformFeePercent = some 5 := by
    decide +kernel
  have hfind : twoPlaces.matchRows.findOne "m" = some m := hsubmit.find
  have hkey : m.matchId = "m" := Table.key_of_findOne hfind
  rw [hfind, Option.map_some, Option.some.injEq, Prod.mk.injEq] at hrow
  have hheld := hescrow
  unfold Match.source at hheld
  rw [hkey] at hheld
  rw [hheld, Option.map_some, Option.some.injEq] at hpercent
  refine ⟨m, escrow, hsubmit, hrow.2, hescrow, hpercent.trans hrow.1.symm, ?_, ?_, ?_⟩
  · rw [hrow.1]
    exact ⟨by decide +kernel, by decide +kernel⟩
  · rw [hrow.2]
    decide +kernel
  · rw [hrow.2]
    decide +kernel

/-- Both places of the match are taken, so only dust is left. The tournament
    has nobody for its third place. -/
theorem onlyDustLeft_twoPlaces :
    (∃ m, twoPlaces.matchRows.findOne "m" = some m ∧ OnlyDustLeft
      ((submitResult twoPlacesResult).eval twoPlaces).2 m.source m.payoutStructure) ∧
    ∃ x, finalists.tournaments.findOne "t" = some x ∧
      ¬OnlyDustLeft ((advanceRound finalReport).eval finalists).2 x.source x.prizeStructure := by
  constructor
  · rcases twoPlaces_terms with ⟨m, escrow, hsubmit, hentries, hterms⟩
    refine ⟨m, hsubmit.find, ?_⟩
    refine ((onlyDustLeft_iff _).1 _ m escrow hsubmit hterms twoPlaces_settles).mpr (Or.inl ?_)
    rw [hentries]
    decide +kernel
  · rcases finalists_terms with ⟨x, escrow, hfind, hstatus, hentries, hterms⟩
    refine ⟨x, hfind, fun hleft => ?_⟩
    -- The bracket is a single match, and nobody in it has the third place.
    have hrow : ((finalists.tournaments.findOne "t").map fun x => x.bracket.map fun bracket =>
        ((bracket.rounds.getLast?.map BracketRound.matchList).map List.length,
          finalists.awards x (recordResults bracket finalReport.results)
            { place := 3, percentage := 10, label := some "3rd Place" })) =
        some (some (some 1, false)) := by
      decide +kernel
    -- The amount is large, so the third prize is more than dust.
    have hbalance : (finalists.escrows.findOne (tournamentSource "t")).map distributableAmount =
        some 3800000 := by
      decide +kernel
    rw [hfind, Option.map_some, Option.some.injEq] at hrow
    rcases Option.map_eq_some_iff.mp hrow with ⟨bracket, hbracket, hfacts⟩
    rw [Prod.mk.injEq] at hfacts
    rcases Option.map_eq_some_iff.mp hfacts.1 with ⟨ms, hlast, hsingle⟩
    rcases List.length_eq_one_iff.mp hsingle with ⟨final, rfl⟩
    have hkey : x.tournamentId = "t" := Table.key_of_findOne hfind
    have hheld := hterms.find
    unfold Tournament.source at hheld
    rw [hkey] at hheld
    rw [hheld, Option.map_some, Option.some.injEq] at hbalance
    have hfixed : ∀ entry ∈ x.prizeStructure, entry.fixedAmount = none := by
      rw [hentries]
      decide +kernel
    have hdust := ((onlyDustLeft_iff finalists).2 finalReport x bracket escrow hfind
      hstatus hbracket
      ⟨final, hlast⟩ hterms hfixed finalReport_completes).mp hleft
    have hlength : x.prizeStructure.length = 3 := by
      rw [hentries]
      rfl
    rw [onlyDust_iff_of_large (by rw [hlength, hbalance]; decide) hterms.whole] at hdust
    have hthird := hdust { place := 3, percentage := 10, label := some "3rd Place" }
      (by rw [hentries]; decide +kernel) (by decide +kernel)
    exact nomatch hfacts.2.symm.trans hthird

end Esports

end SvmCourse
