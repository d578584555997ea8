import SvmCourse.Esports.Shares
import SvmCourse.Esports.Starting

/-!
# Completing a Tournament

What a tournament needs to be completed once its final has a winner, and what
completing it leaves behind. With a locked escrow that holds something, a fee
between nothing and everything, and whole percentages that add up to at most
one hundred, nothing in the completion can throw, whatever the bracket says:
the placements are written, the shares fit into what the escrow may pay out,
and a prize that cannot be credited is noted and passed over.

The payments are looked up by placement, and paying a prize writes the
placement it was found under. So the placements read off the bracket are the
ones that stay.

## Main definitions

* `Payable`: What the payout of a tournament needs.
* `Db.placementOf`: The stored placement of a player.
* `InPlay`: A tournament in progress that can be played and paid.

## Theorems

* `placeAll_ensures`: Writing placements.
* `completeTournament_succeeds`: Completing succeeds and places the players.
* `advanceRound_moves`, `advanceRound_completes`, `advanceRound_refused`: What
  a call of `advanceRound` does.
-/

namespace SvmCourse

namespace Esports

open Core Core.Prog

/-- The escrow is locked, holds something and takes the fee of the tournament,
    and the percentages are whole and add up to at most one hundred, with no
    fixed amount among the prizes. -/
structure Payable (s : Db) (x : Tournament) : Prop where
  escrow : ∃ escrow, s.escrows.findOne x.source = some escrow ∧ escrow.status = .LOCKED ∧
    0 < escrow.currentBalance ∧ escrow.platformFeePercent = x.platformFeePercent
  fee : 0 ≤ x.platformFeePercent ∧ x.platformFeePercent ≤ 100
  whole : ∀ entry ∈ x.prizeStructure, entry.IsWhole ∧ entry.fixedAmount = none
  total : totalPercentage x.prizeStructure ≤ 100

/-- The stored placement of a player in a tournament. -/
def Db.placementOf (db : Db) (tournamentId playerId : String) : Option ℚ :=
  (db.registrations.findOne (tournamentId, playerId)).bind TournamentRegistration.finalPlacement

/-- The player is registered. -/
def Db.isRegistered (db : Db) (tournamentId playerId : String) : Prop :=
  ∃ r, db.registrations.findOne (tournamentId, playerId) = some r

theorem PayoutReady.not_refused {payout : Payout} {s : Db} {escrow : EscrowAccount} {fee : Int}
    {dists : List PrizeCalculation} (h : PayoutReady payout s escrow fee dists) :
    ¬PayoutRefused payout s := by
  intro hrefused
  rcases hrefused with hnone | ⟨found, hfind, hwhy⟩
  · exact nomatch h.find.symm.trans hnone
  · obtain rfl : found = escrow := Option.some.inj (hfind.symm.trans h.find)
    rw [h.calculated] at hwhy
    rcases hwhy with hno | hless
    · exact nomatch h.canRelease.symm.trans hno
    · have hle := h.total_le
      rw [h.fee_eq] at hle
      omega

/-- A payout that is ready goes through when no access is refused. -/
theorem distribute_succeeds {payout : Payout} {s : Db} {escrow : EscrowAccount} {fee : Int}
    {dists : List PrizeCalculation} (hready : PayoutReady payout s escrow fee dists)
    {J : List PrizeCalculation → Db → Prop}
    (hstart : J dists
      ((s.withEscrowTxs (releaseTxs (paymentsOf payout.source dists) fee)).withEscrow
      (escrow.afterRelease (paymentsOf payout.source dists).total fee)))
    (hstep : ∀ dist rest s, J (dist :: rest) s →
      (creditOne payout.source payout.mark dist).Ensures False s fun _ t => J rest t)
    (hprizes : ∀ rest s prizes, J rest s → J rest (s.withPrizes prizes)) :
    (distribute payout).Ensures False s fun r t => (∃ record, r = .ok record) ∧ J [] t := by
  have hends := distribute_ensures (C := False) (J := J) payout s ?_ hstep hprizes
  · refine ensures_mono hends fun r t ht => ?_
    cases r with
    | ok record => exact ⟨⟨record, rfl⟩, ht⟩
    | error e =>
        rcases ht with ⟨prizes, -, hc | hrefused⟩ | ⟨hc, -⟩ | ⟨hc, -⟩
        · exact hc.elim
        · exact absurd hrefused hready.not_refused
        · exact hc.elim
        · exact hc.elim
  · -- There is only one way for the payout to be ready.
    intro found fee' dists' h
    obtain rfl : found = escrow := Option.some.inj (h.find.symm.trans hready.find)
    obtain rfl : dists' = dists := Except.ok.inj (h.calculated.symm.trans hready.calculated)
    obtain rfl : fee' = fee := h.fee_eq.trans hready.fee_eq.symm
    exact hstart

/-! ### Writing placements -/

/-- Writing a placement into the row of a player. -/
theorem placementOf_update (s : Db) (tournamentId playerId : String) (v : ℚ)
    (f : TournamentRegistration → TournamentRegistration)
    (hf : ∀ r, (f r).key = r.key) (hplace : ∀ r, (f r).finalPlacement = some v) (p : String) :
    let t := { s with registrations :=
      s.registrations.update (fun r => r.key = (tournamentId, playerId)) f hf }
    (s.isRegistered tournamentId p → t.isRegistered tournamentId p) ∧
      t.placementOf tournamentId p =
        if p = playerId ∧ (s.registrations.findOne (tournamentId, p)).isSome then some v
        else s.placementOf tournamentId p := by
  simp only [Db.isRegistered, Db.placementOf, Table.findOne_update]
  -- A player who is not registered has no row to write to.
  cases hfind : s.registrations.findOne (tournamentId, p) with
  | none => simp
  | some r =>
      have hkey : r.key = (tournamentId, p) := Table.key_of_findOne hfind
      refine ⟨fun _ => ⟨_, rfl⟩, ?_⟩
      by_cases hp : p = playerId
      · simp [hkey, hp, hplace]
      · simp [hkey, hp]

/-- Placements are written to the rows of the players they name. -/
theorem placeAll_ensures (tournamentId : String) (l : List (String × ℚ))
    (hl : (l.map Prod.fst).Nodup) (s : Db) :
    (each l (placeRegistration tournamentId)).Ensures False s fun r t =>
      r = .ok () ∧ t = { s with registrations := t.registrations } ∧
      ∀ p, s.isRegistered tournamentId p → t.isRegistered tournamentId p ∧
        t.placementOf tournamentId p =
          ((l.find? fun e => e.1 = p).map Prod.snd).or (s.placementOf tournamentId p) := by
  induction l generalizing s with
  | nil => exact ⟨rfl, rfl, fun p hp => ⟨hp, rfl⟩⟩
  | cons e l ih =>
      rw [List.map_cons, List.nodup_cons] at hl
      refine ensures_bind (ensures_perform ?_ fun hc => hc.elim)
      refine ensures_mono (ih hl.2 _) fun r t ht => ?_
      rcases ht with ⟨hr, hrest, hplaced⟩
      refine ⟨hr, hrest, fun p hp => ?_⟩
      have hone := placementOf_update s tournamentId e.1 e.2
        (fun r => { r with finalPlacement := some e.2 }) (fun _ => rfl) (fun _ => rfl) p
      rcases hplaced p (hone.1 hp) with ⟨hreg, hplace⟩
      refine ⟨hreg, hplace.trans ?_⟩
      have hsome : (s.registrations.findOne (tournamentId, p)).isSome = true := by
        rcases hp with ⟨r, hfind⟩
        rw [hfind]
        rfl
      rw [hone.2, List.find?_cons]
      by_cases hpe : p = e.1
      · -- No later placement names this player.
        have hnone : (l.find? fun e' => e'.1 = p) = none := by
          rw [List.find?_eq_none]
          intro e' he' heq
          rw [decide_eq_true_eq] at heq
          refine hl.1 ?_
          rw [← hpe, ← heq]
          exact List.mem_map_of_mem he'
        rw [if_pos ⟨hpe, hsome⟩, hnone, hpe]
        simp
      · have hne : ¬e.1 = p := fun h => hpe h.symm
        rw [if_neg fun h => hpe h.1]
        simp [hne]

/-! ### Paying the prizes -/

/-- Crediting touches neither escrows nor registrations nor tournaments. -/
theorem creditPrize_ensures {C : Prop} (playerId : String) (amount : Int) (reference : SourceId)
    (s : Db) : (creditPrize playerId amount reference).Ensures C s fun _ t =>
      t.escrows = s.escrows ∧ t.registrations = s.registrations ∧
        t.tournaments = s.tournaments := by
  refine ensures_mono (moveFunds_ensures _ _ _ _ _ s) fun r t ht => ?_
  cases r with
  | ok tx =>
      rcases ht with ⟨wallet, -, -, -, rfl⟩
      exact ⟨rfl, rfl, rfl⟩
  | error e =>
      rcases ht with ⟨rfl | ⟨-, wallet, rfl⟩, -⟩ <;> exact ⟨rfl, rfl, rfl⟩

/-- Every payment goes to a player under the placement it was found under, so
    paying the prizes leaves every placement what it was. -/
structure PaidPlaces (u : Db) (tournamentId : String) (escrows : Table EscrowAccount.escrowId)
    (rest : List PrizeCalculation) (t : Db) : Prop where
  escrows : t.escrows = escrows
  tournaments : t.tournaments = u.tournaments
  placed : ∀ d ∈ rest, u.placementOf tournamentId d.playerId = some d.placement
  registered : ∀ p, u.isRegistered tournamentId p → t.isRegistered tournamentId p
  placements : ∀ p, t.placementOf tournamentId p = u.placementOf tournamentId p

theorem creditOne_paidPlaces {u s : Db} {x : Tournament} {escrows : Table EscrowAccount.escrowId}
    {dist : PrizeCalculation} {rest : List PrizeCalculation}
    (h : PaidPlaces u x.tournamentId escrows (dist :: rest) s) :
    (creditOne x.source (markRegistration x.tournamentId) dist).Ensures False s fun _ t =>
      PaidPlaces u x.tournamentId escrows rest t := by
  have hrest : ∀ d ∈ rest, u.placementOf x.tournamentId d.playerId = some d.placement :=
    fun d hd => h.placed d (List.mem_cons_of_mem _ hd)
  refine ensures_bind (ensures_mono (creditPrize_ensures _ _ _ s) fun r t ht => ?_)
  -- The credit leaves the registrations alone, and marking writes what is there.
  rcases ht with ⟨hescrows, hregistrations, htournaments⟩
  have hregistered : ∀ p, t.isRegistered x.tournamentId p ↔ s.isRegistered x.tournamentId p := by
    intro p
    unfold Db.isRegistered
    rw [hregistrations]
  have hplacement : ∀ p, t.placementOf x.tournamentId p = s.placementOf x.tournamentId p := by
    intro p
    unfold Db.placementOf
    rw [hregistrations]
  have hsame : PaidPlaces u x.tournamentId escrows rest t :=
    ⟨hescrows.trans h.escrows, htournaments.trans h.tournaments, hrest,
      fun p hp => (hregistered p).mpr (h.registered p hp),
      fun p => (hplacement p).trans (h.placements p)⟩
  cases r with
  | error e => exact hsame
  | ok tx =>
      refine ensures_perform ?_ fun hc => hc.elim
      have hmark := placementOf_update t x.tournamentId dist.playerId dist.placement
        (fun r => { r with prizeWon := dist.amount, finalPlacement := some dist.placement })
        (fun _ => rfl) (fun _ => rfl)
      refine ⟨hsame.escrows, hsame.tournaments, hrest,
        fun p hp => (hmark p).1 (hsame.registered p hp), fun p => ?_⟩
      refine (hmark p).2.trans ?_
      by_cases hp : p = dist.playerId ∧ (t.registrations.findOne (x.tournamentId, p)).isSome
      · rw [if_pos hp, hp.1]
        exact (h.placed dist List.mem_cons_self).symm
      · rw [if_neg hp]
        exact hsame.placements p

/-- The payments of a tournament go to players under their placements. -/
theorem tournamentPayment_placed {u : Db} {x : Tournament} {amount : Int} {entry : PrizeEntry}
    {d : PrizeCalculation}
    (h : wholeTournamentPayment (rankedRegistrations (u.registrations.find fun r =>
      r.tournamentId = x.tournamentId)) amount entry = some d) :
    u.placementOf x.tournamentId d.playerId = some d.placement := by
  unfold wholeTournamentPayment at h
  split at h
  · exact nomatch h
  · rcases Option.map_eq_some_iff.mp h with ⟨r, hfind, rfl⟩
    have hplace := List.find?_some hfind
    have hmem := List.mem_of_find?_eq_some hfind
    unfold rankedRegistrations Table.find at hmem
    rw [List.mem_insertionSort, List.mem_filter, List.mem_filter, decide_eq_true_eq] at hmem
    -- Who is ranked is registered in the tournament under the same key.
    have hrow : u.registrations.findOne (x.tournamentId, r.playerId) = some r := by
      have hkey := Table.findOne_of_mem hmem.1.1
      unfold TournamentRegistration.key at hkey
      rwa [hmem.1.2] at hkey
    unfold Db.placementOf
    rw [hrow, Option.bind_some]
    exact of_decide_eq_true hplace

/-- What the payout pays, before the fee of the escrow is known by name. -/
theorem payable_ready {s : Db} {x : Tournament} (hpay : Payable s x)
    (registrations : List TournamentRegistration) :
    ∃ escrow, s.escrows.findOne x.source = some escrow ∧
      PayoutReady (tournamentPayout x registrations) s escrow
        (platformFeeOf escrow.currentBalance x.platformFeePercent)
        (x.prizeStructure.filterMap (wholeTournamentPayment (rankedRegistrations registrations)
          (escrow.currentBalance -
            platformFeeOf escrow.currentBalance x.platformFeePercent))) := by
  rcases hpay.escrow with ⟨escrow, hfind, hlocked, hpos, hpercent⟩
  refine ⟨escrow, hfind, hfind, ?_, ?_, tournamentPayments_ok _ _ hpay.whole, ?_⟩
  · rw [hpercent]
  · unfold EscrowAccount.canRelease
    rw [hlocked, decide_eq_true hpos]
    rfl
  · -- The payments are not more than what is left of the escrow after the fee.
    have hle := platformFeeOf_le (Int.le_of_lt hpos) hpay.fee.1 hpay.fee.2
    have hamount : 0 ≤ escrow.currentBalance -
        platformFeeOf escrow.currentBalance x.platformFeePercent := by omega
    have hwhole : ∀ entry ∈ x.prizeStructure, entry.IsWhole := fun e he => (hpay.whole e he).1
    rw [paymentsOf_total]
    exact Int.le_trans
      (sum_payments_le hamount hwhole fun _ _ _ hd => wholeTournamentPayment_amount hd)
      (sum_shares_le hamount hwhole hpay.total)

/-- Completing a payable tournament succeeds, keeps the tournaments, and gives
    every registered player the placement the bracket gives. -/
theorem completeTournament_succeeds {s : Db} {x : Tournament} (hpay : Payable s x) :
    (completeTournament x).Ensures False s fun r t => r = .ok () ∧
      t.tournaments = s.tournaments ∧
      ∀ p, s.isRegistered x.tournamentId p → t.placementOf x.tournamentId p =
        (((finalPlacements (x.bracket.getD ⟨[]⟩)).findOne p).map Prod.snd).or
          (s.placementOf x.tournamentId p) := by
  unfold completeTournament
  refine ensures_bind (ensures_perform ?_ fun hc => hc.elim)
  refine ensures_bind (ensures_mono (placeAll_ensures x.tournamentId _
    (finalPlacements (x.bracket.getD ⟨[]⟩)).unique s) fun r u hu => ?_)
  rcases hu with ⟨rfl, hu, hplaced⟩
  refine ensures_bind (ensures_perform ?_ fun hc => hc.elim)
  -- Only registrations were written, so the tournament is still payable.
  have hescrows : u.escrows = s.escrows := by rw [hu]
  have htournaments : u.tournaments = s.tournaments := by rw [hu]
  have hpay' : Payable u x := by
    refine ⟨?_, hpay.fee, hpay.whole, hpay.total⟩
    rw [hescrows]
    exact hpay.escrow
  rcases payable_ready hpay' (u.registrations.find fun r => r.tournamentId = x.tournamentId) with
    ⟨escrow, -, hready⟩
  refine ensures_bind (ensures_mono (distribute_succeeds hready
    (J := PaidPlaces u x.tournamentId (u.escrows.save (escrow.afterRelease _ _)))
    ⟨rfl, rfl, fun d hd => ?_, fun _ h => h, fun _ => rfl⟩
    (fun _ _ _ h => creditOne_paidPlaces h)
    (fun _ _ _ h => ⟨h.escrows, h.tournaments, h.placed, h.registered, h.placements⟩))
    fun r t ht => ?_)
  · rcases List.mem_filterMap.mp hd with ⟨entry, -, hentry⟩
    exact tournamentPayment_placed hentry
  · rcases ht with ⟨⟨record, rfl⟩, hpaid⟩
    refine ⟨rfl, hpaid.tournaments.trans htournaments, fun p hp => ?_⟩
    exact (hpaid.placements p).trans (hplaced p hp).2

/-! ### Advancing a round -/

/-- A tournament in progress with the bracket it was generated with, different
    named players who are registered, and an escrow that can be paid out. -/
structure InPlay (s : Db) (x : Tournament) (hex : BracketHex) (ids : List String) : Prop
    extends Payable s x where
  row : s.tournaments.findOne x.tournamentId = some x
  status : x.status = .IN_PROGRESS
  bracket : x.bracket = some (generateBracketStructure x.bracketType hex ids)
  different : ids.Nodup
  named : ∀ id ∈ ids, id ≠ ""
  registered : ∀ id ∈ ids, s.isRegistered x.tournamentId id

section Advancing

variable {s : Db} {x : Tournament} {bracket : Bracket} (request : AdvanceRoundRequest)

theorem advanceRound_settles (hfind : s.tournaments.findOne request.tournamentId = some x)
    (hstatus : x.status = .IN_PROGRESS) (hbracket : x.bracket = some bracket) :
    (advanceRound request).eval s =
      (settleRound x (recordResults bracket request.results) request.now).eval s := by
  have hplaying : decide ((s.loaded x).status = .IN_PROGRESS) = true := decide_eq_true hstatus
  have hsome : (s.loaded x).bracket = some bracket := hbracket
  unfold advanceRound
  rw [bind_eq, eval_bind_ok (getTournamentById_eval hfind), bind_eq, hplaying,
    eval_bind_ok (eval_require_true ..), bind_eq, hsome, eval_bind_ok (eval_demand_some ..)]
  rfl

/-- A call that leaves the final open moves the winners on. -/
theorem advanceRound_moves (hfind : s.tournaments.findOne request.tournamentId = some x)
    (hstatus : x.status = .IN_PROGRESS) (hbracket : x.bracket = some bracket)
    (hopen : finalDecided (recordResults bracket request.results) = false) :
    ((advanceRound request).eval s).2 = { s with
      tournaments :=
        s.tournaments.save (advancedTournament x (recordResults bracket request.results)) } := by
  rw [advanceRound_settles request hfind hstatus hbracket]
  unfold settleRound
  rw [hopen]
  rfl

/-- A call that decides the final completes a payable tournament and gives the
    players their placements. -/
theorem advanceRound_completes (hpay : Payable s x)
    (hfind : s.tournaments.findOne request.tournamentId = some x)
    (hstatus : x.status = .IN_PROGRESS) (hbracket : x.bracket = some bracket)
    (hfinal : finalDecided (recordResults bracket request.results) = true) :
    let t := ((advanceRound request).eval s).2
    t.tournaments.findOne request.tournamentId = some (completedTournament x
        (recordResults bracket request.results) request.now) ∧
      ∀ p, s.isRegistered x.tournamentId p → t.placementOf x.tournamentId p =
        (((finalPlacements (recordResults bracket request.results)).findOne p).map Prod.snd).or
          (s.placementOf x.tournamentId p) := by
  have hkey : x.tournamentId = request.tournamentId := Table.key_of_findOne hfind
  -- The tournament is as payable with its final bracket.
  have hpay' : Payable s (completedTournament x (recordResults bracket request.results)
      request.now) := ⟨hpay.escrow, hpay.fee, hpay.whole, hpay.total⟩
  rw [advanceRound_settles request hfind hstatus hbracket]
  unfold settleRound
  rw [hfinal, if_pos rfl]
  have hends := (ensures_false_iff ..).mp (completeTournament_succeeds hpay')
  rcases heval : (completeTournament (completedTournament x
    (recordResults bracket request.results) request.now)).eval s with ⟨r, u⟩
  rw [heval] at hends
  rcases hends with ⟨rfl, htournaments, hplaced⟩
  rw [bind_eq, eval_bind_ok heval]
  refine ⟨?_, hplaced⟩
  rw [← hkey]
  exact Table.findOne_save_self u.tournaments (completedTournament x _ _)

/-- A call on a tournament that is not in progress changes nothing. -/
theorem advanceRound_refused (hfind : s.tournaments.findOne request.tournamentId = some x)
    (hstatus : x.status ≠ .IN_PROGRESS) : ((advanceRound request).eval s).2 = s := by
  have hover : decide ((s.loaded x).status = .IN_PROGRESS) = false := decide_eq_false hstatus
  unfold advanceRound
  rw [bind_eq, eval_bind_ok (getTournamentById_eval hfind), bind_eq, hover,
    eval_bind_error (eval_require_false ..)]

end Advancing

end Esports

end SvmCourse
