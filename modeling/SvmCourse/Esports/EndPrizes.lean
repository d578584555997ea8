import SvmCourse.Esports.Finishers
import SvmCourse.Esports.Payability

/-!
# Prizes at the End of a Tournament

Whether the prizes a tournament was created with can be paid when it is over.
The creation checks that the percentages come to at most one hundred and nothing
else. So a structure may name a third place, which no bracket gives, hold a text
that is no number or a percentage that is not whole, or promise more than was
collected. In the last three cases the payout throws, and everybody gets
nothing.

With the placements of a bracket that was played to the end all of this can be
told from the request and the number of players.

## Main definitions

* `CreateTournamentRequest.Validated`: The request passes its DTO.
* `AtEnd`: An accepted tournament whose players all have their placements.
* `PayableAtEnd`: It is paid, and every place there can be finds somebody.
* `PlacedByPlay`: The placements are those of a bracket played to the end.
* `CreateTournamentRequest.Payable`: The prizes of a request can be paid to so
  many players.

## Theorems

* `created_iff`: What the creation of a tournament checks.
* `payableAtEnd_iff`: When the prizes can be paid.
-/

namespace SvmCourse

namespace Esports

open Core Core.Prog

/-! ### Accepted tournaments -/

/-- The checks of `CreateTournamentDto` and `PrizeStructureItemDto`. A fixed
    amount may be any text. -/
structure CreateTournamentRequest.Validated (request : CreateTournamentRequest) : Prop where
  maxParticipants : 2 ≤ request.maxParticipants ∧ request.maxParticipants ≤ 1024
  minParticipants : 2 ≤ request.minParticipants
  platformFeePercent : 0 ≤ request.platformFeePercent ∧ request.platformFeePercent ≤ 50
  prizeStructure : ∀ entry ∈ request.prizeStructure.getD [],
    1 ≤ entry.place ∧ 0 ≤ entry.percentage ∧ entry.percentage ≤ 100

/-- What the outcome of a creation says about the checks. -/
def CreationEnds (request : CreateTournamentRequest) (s : Db) :
    Except ServiceError Tournament → Prop
  | .ok x => x = newTournament request ∧
      isValidEntryFee request.tokenType request.entryFee = true ∧
      totalPercentage (tournamentPrizeStructure request) ≤ 100 ∧
      s.escrows.findOne (tournamentSource request.hex) = none
  | .error _ => ¬(isValidEntryFee request.tokenType request.entryFee = true ∧
      totalPercentage (tournamentPrizeStructure request) ≤ 100 ∧
      s.escrows.findOne (tournamentSource request.hex) = none)

/-- A tournament is created if its entry fee is within the limits, its
    percentages come to at most one hundred and it has no escrow yet. -/
theorem created_iff {request : CreateTournamentRequest} {s : Db} :
    (∃ t, (createTournament request).eval s = (.ok (newTournament request), t)) ↔
      isValidEntryFee request.tokenType request.entryFee = true ∧
        totalPercentage (tournamentPrizeStructure request) ≤ 100 ∧
        s.escrows.findOne (tournamentSource request.hex) = none := by
  have hends : (createTournament request).Ensures False s fun r _ => CreationEnds request s r := by
    -- The checks come before anything is written, and the escrow before the row.
    unfold createTournament
    refine ensures_bind (ensures_require (fun hvalid => ?_) fun hnot hall => ?_)
    · refine ensures_bind (ensures_require (fun htotal => ?_) fun hnot hall => ?_)
      · refine ensures_bind (createEscrow_calm (fun _ _ hescrow hall => ?_) fun hnew => ?_)
        · cases hall.2.2.symm.trans hescrow
        · refine ensures_bind (ensures_perform ?_ False.elim)
          exact ⟨rfl, hvalid, of_decide_eq_true htotal, hnew⟩
      · rw [decide_eq_true hall.2.1] at hnot
        cases hnot
    · rw [hall.1] at hnot
      cases hnot
  rw [ensures_false_iff] at hends
  rcases heval : (createTournament request).eval s with ⟨r, t⟩
  rw [heval] at hends
  cases r with
  | ok x =>
      rcases hends with ⟨rfl, hchecks⟩
      exact ⟨fun _ => hchecks, fun _ => ⟨t, rfl⟩⟩
  | error e =>
      refine ⟨fun h => ?_, fun hchecks => absurd hchecks hends⟩
      rcases h with ⟨u, hu⟩
      cases hu

/-- What an accepted tournament with so many players has to distribute. -/
def CreateTournamentRequest.distributable (request : CreateTournamentRequest) (players : Nat) :
    Int :=
  request.entryFee * players - platformFeeOf (request.entryFee * players) request.platformFeePercent

/-- An accepted tournament at its end. Its escrow is locked and holds the entry
    fees, and all players have a placement. -/
structure AtEnd (request : CreateTournamentRequest) (s : Db) (x : Tournament)
    (escrow : EscrowAccount) (registrations : List TournamentRegistration) : Prop where
  validated : request.Validated
  created : ∃ before after, (createTournament request).eval before =
    (.ok (newTournament request), after)
  terms : x.platformFeePercent = request.platformFeePercent ∧
    x.prizeStructure = tournamentPrizeStructure request
  enough : request.minParticipants ≤ registrations.length
  fits : registrations.length ≤ request.maxParticipants
  find : s.escrows.findOne x.source = some escrow
  locked : escrow.status = .LOCKED
  percent : escrow.platformFeePercent = request.platformFeePercent
  balance : escrow.currentBalance = request.entryFee * registrations.length
  placed : ∀ r ∈ registrations, r.finalPlacement.isSome = true

/-- The payout returns, and in its record every entry that is not for the MVP,
    with a place that is at most the number of players, is paid to a player with
    that place. -/
def PayableAtEnd (s : Db) (x : Tournament) (registrations : List TournamentRegistration) : Prop :=
  ∃ record t, (distributeTournamentPrizes x registrations).eval s = (.ok record, t) ∧
    ∀ entry ∈ x.prizeStructure, entry.isMvp = false → entry.place ≤ registrations.length →
      ∃ r ∈ registrations, ∃ d ∈ record.distributions,
        r.finalPlacement = some entry.place ∧ d.toPrizeCalculation = entry.paidTo r d.amount

/-- Every place of the structure that is at most the number of players is
    somebody's. -/
def PlacesTaken (x : Tournament) (registrations : List TournamentRegistration) : Prop :=
  ∀ entry ∈ x.prizeStructure, entry.isMvp = false → entry.place ≤ registrations.length →
    ∃ r ∈ registrations, r.finalPlacement = some entry.place

section Ends

variable {request : CreateTournamentRequest} {s : Db} {x : Tournament} {escrow : EscrowAccount}
  {registrations : List TournamentRegistration}

theorem AtEnd.two_le (h : AtEnd request s x escrow registrations) : 2 ≤ registrations.length :=
  Nat.le_trans h.validated.minParticipants h.enough

theorem AtEnd.canRelease (h : AtEnd request s x escrow registrations) :
    escrow.canRelease = true := by
  -- Somebody has paid, and an accepted entry fee is positive.
  have hfee : 0 < request.entryFee := by
    rcases h.created with ⟨before, hcreated⟩
    have hlarge := entryFee_large (created_iff.mp hcreated).1
    omega
  have hpos : 0 < escrow.currentBalance := by
    have htwo := h.two_le
    rw [h.balance]
    exact Int.mul_pos hfee (by omega)
  unfold EscrowAccount.canRelease
  rw [h.locked, decide_eq_true hpos]
  rfl

theorem AtEnd.distributable (h : AtEnd request s x escrow registrations) :
    distributableAmount escrow = request.distributable registrations.length := by
  unfold distributableAmount CreateTournamentRequest.distributable
  rw [h.balance, h.percent]

/-- The payout returns if what is awarded can be read and paid. -/
theorem AtEnd.returns_iff (h : AtEnd request s x escrow registrations) :
    (∃ record t, (distributeTournamentPrizes x registrations).eval s = (.ok record, t)) ↔
      Affordable (request.distributable registrations.length) (x.awardedEntries registrations) := by
  rw [tournamentReturns_iff registrations h.find (h.percent.trans h.terms.1.symm), h.distributable]
  exact and_iff_right h.canRelease

/-- In the record an entry that finds somebody is paid. -/
theorem AtEnd.paid (h : AtEnd request s x escrow registrations)
    {record : PrizeDistribution} {t : Db}
    (heval : (distributeTournamentPrizes x registrations).eval s = (.ok record, t))
    {entry : PrizeEntry} (hentry : entry ∈ x.prizeStructure)
    (hawarded : entry.isAwarded registrations = true) :
    ∃ r ∈ registrations, ∃ d ∈ record.distributions,
      r.finalPlacement = some entry.place ∧ d.toPrizeCalculation = entry.paidTo r d.amount := by
  rcases isAwarded_iff.mp hawarded with ⟨r, hr⟩
  rcases (record_pays h.find (h.percent.trans h.terms.1.symm) heval).2 entry hentry r hr with
    ⟨v, -, d, hd, hpaid⟩
  rcases tournamentRecipient_mem hr with ⟨hregistered, hplace⟩
  refine ⟨r, hregistered, d, hd, hplace, hpaid.trans ?_⟩
  rw [show d.amount = v from congrArg PrizeCalculation.amount hpaid]

/-- The prizes can be paid if and only if every place is somebody's and what is
    awarded can be read and paid. -/
theorem AtEnd.payable_iff (h : AtEnd request s x escrow registrations) :
    PayableAtEnd s x registrations ↔ PlacesTaken x registrations ∧
      Affordable (request.distributable registrations.length) (x.awardedEntries registrations) := by
  constructor
  · rintro ⟨record, t, heval, hpaid⟩
    refine ⟨fun entry hentry hmvp hplace => ?_, h.returns_iff.mp ⟨record, t, heval⟩⟩
    rcases hpaid entry hentry hmvp hplace with ⟨r, hr, -, -, htaken, -⟩
    exact ⟨r, hr, htaken⟩
  · -- What is awarded can be paid, and with all places taken everything is awarded.
    rintro ⟨htaken, hafford⟩
    rcases h.returns_iff.mpr hafford with ⟨record, t, heval⟩
    refine ⟨record, t, heval, fun entry hentry hmvp hplace => h.paid heval hentry ?_⟩
    rcases htaken entry hentry hmvp hplace with ⟨r, hr, hfinal⟩
    unfold PrizeEntry.isAwarded
    rw [hmvp, Bool.not_false, Bool.true_and, List.any_eq_true]
    exact ⟨r, hr, decide_eq_true hfinal⟩

end Ends

/-! ### Placements of a bracket -/

/-- The placements are those of a bracket that was played to the end by the
    registered players, in whatever order they were seeded. -/
def PlacedByPlay (registrations : List TournamentRegistration) : Prop :=
  ∃ ids recorded, PlayedOut ids recorded ∧ ids.Nodup ∧ (∀ id ∈ ids, id ≠ "") ∧
    (registrations.map TournamentRegistration.playerId).Perm ids ∧
    ∀ r ∈ registrations, r.finalPlacement = (finalPlacements recorded).of r.playerId

/-- The entries that find a player in a bracket for so many. -/
def CreateTournamentRequest.bracketEntries (request : CreateTournamentRequest) (players : Nat) :
    List PrizeEntry :=
  (tournamentPrizeStructure request).filter fun entry =>
    !entry.isMvp && decide (entry.place ∈ bracketPlaces players)

/-- The prizes of the request can be paid to so many players. Every place up to
    their number is one the bracket gives, and the amounts for such places can
    be read and paid. -/
structure CreateTournamentRequest.Payable (request : CreateTournamentRequest) (players : Nat) :
    Prop where
  places : ∀ entry ∈ tournamentPrizeStructure request, entry.isMvp = false →
    entry.place ≤ players → entry.place ∈ bracketPlaces players
  affordable : Affordable (request.distributable players) (request.bracketEntries players)

section Placed

variable {request : CreateTournamentRequest} {s : Db} {x : Tournament} {escrow : EscrowAccount}
  {registrations : List TournamentRegistration}

/-- The places the players have are those of the bracket. -/
theorem AtEnd.place_iff (h : AtEnd request s x escrow registrations)
    (hplay : PlacedByPlay registrations) (place : ℚ) :
    (∃ r ∈ registrations, r.finalPlacement = some place) ↔
      place ∈ bracketPlaces registrations.length := by
  rcases hplay with ⟨ids, recorded, hout, hids, hnamed, hperm, hfinal⟩
  have hlength : ids.length = registrations.length := by
    rw [← hperm.length_eq, List.length_map]
  have hmem : ∀ id, id ∈ ids ↔ ∃ r ∈ registrations, r.playerId = id := by
    intro id
    rw [← hperm.mem_iff, List.mem_map]
  -- Since all players have a placement, nobody was left out of the bracket.
  have hplaced : ∀ id ∈ ids, ((finalPlacements recorded).of id).isSome = true := by
    intro id hid
    rcases (hmem id).mp hid with ⟨r, hr, rfl⟩
    rw [← hfinal r hr]
    exact h.placed r hr
  rw [← hlength, ← placed_iff hout hids hnamed (hlength ▸ h.two_le) hplaced]
  constructor
  · rintro ⟨r, hr, hplace⟩
    exact ⟨r.playerId, (hmem _).mpr ⟨r, hr, rfl⟩, (hfinal r hr).symm.trans hplace⟩
  · rintro ⟨id, hid, hplace⟩
    rcases (hmem id).mp hid with ⟨r, hr, rfl⟩
    exact ⟨r, hr, (hfinal r hr).trans hplace⟩

theorem AtEnd.awardedEntries_eq (h : AtEnd request s x escrow registrations)
    (hplay : PlacedByPlay registrations) :
    x.awardedEntries registrations = request.bracketEntries registrations.length := by
  unfold Tournament.awardedEntries CreateTournamentRequest.bracketEntries
  rw [h.terms.2]
  refine List.filter_congr fun entry _ => ?_
  unfold PrizeEntry.isAwarded
  congr 1
  rw [Bool.eq_iff_iff, decide_eq_true_eq, ← h.place_iff hplay, List.any_eq_true]
  simp only [decide_eq_true_eq]

end Placed

/-- The prizes of an accepted tournament are payable at its end if and only if
    every place up to the number of players is somebody's and what is awarded
    can be read and does not exceed what was collected less the fee. With the
    placements of a bracket that was played to the end this is a matter of the
    request and the number of players. -/
theorem payableAtEnd_iff {request : CreateTournamentRequest} {s : Db} {x : Tournament}
    {escrow : EscrowAccount} {registrations : List TournamentRegistration}
    (h : AtEnd request s x escrow registrations) :
    (PayableAtEnd s x registrations ↔ PlacesTaken x registrations ∧
      Affordable (request.distributable registrations.length)
        (x.awardedEntries registrations)) ∧
    (PlacedByPlay registrations →
      (PayableAtEnd s x registrations ↔ request.Payable registrations.length)) := by
  refine ⟨h.payable_iff, fun hplay => ?_⟩
  rw [h.payable_iff, h.awardedEntries_eq hplay]
  have hplaces : PlacesTaken x registrations ↔
      ∀ entry ∈ tournamentPrizeStructure request, entry.isMvp = false →
        entry.place ≤ registrations.length → entry.place ∈ bracketPlaces registrations.length := by
    unfold PlacesTaken
    simp only [h.place_iff hplay, h.terms.2]
  rw [hplaces]
  exact ⟨fun hboth => ⟨hboth.1, hboth.2⟩, fun hpayable => ⟨hpayable.places, hpayable.affordable⟩⟩

/-! ### Two tournaments -/

/-- A small tournament with these prizes. -/
def smallRequest (prizeStructure : List PrizeEntry) : CreateTournamentRequest where
  hex := "t"
  entryFee := 1000000
  maxParticipants := 4
  bracketType := .SINGLE_ELIMINATION
  prizeStructure := some prizeStructure
  registrationStart := 0
  registrationEnd := 10

/-- Its escrow with the fees of so many players. -/
def smallEscrow (players : Nat) : EscrowAccount where
  escrowId := tournamentSource "t"
  tokenType := .SOL
  totalDeposited := 1000000 * players
  totalReleased := 0
  totalRefunded := 0
  platformFeeCollected := 0
  currentBalance := 1000000 * players
  status := .LOCKED
  platformFeePercent := 5

/-- The store of the witness. -/
def smallStore (players : Nat) : Db :=
  { Db.empty with escrows := Table.empty.save (smallEscrow players) }

/-- Its players with their placements. -/
def placedPlayers (placements : List (String × ℚ)) : List TournamentRegistration :=
  placements.zipIdx.map fun p =>
    { tournamentId := "t", playerId := p.1.1, walletId := p.2, status := .CHECKED_IN,
      finalPlacement := some p.1.2 }

theorem smallRequest_atEnd (prizeStructure : List PrizeEntry) (placements : List (String × ℚ))
    (hentries : ∀ entry ∈ prizeStructure,
      1 ≤ entry.place ∧ 0 ≤ entry.percentage ∧ entry.percentage ≤ 100)
    (htotal : totalPercentage (tournamentPrizeStructure (smallRequest prizeStructure)) ≤ 100)
    (hplayers : 2 ≤ placements.length ∧ placements.length ≤ 4) :
    AtEnd (smallRequest prizeStructure) (smallStore placements.length)
      (newTournament (smallRequest prizeStructure)) (smallEscrow placements.length)
      (placedPlayers placements) := by
  have hlength : (placedPlayers placements).length = placements.length := by
    simp [placedPlayers]
  -- The request passes all checks of the DTO.
  have hvalid : (smallRequest prizeStructure).Validated :=
    ⟨show 2 ≤ 4 ∧ 4 ≤ 1024 by omega, Nat.le_refl 2, show (0 : ℚ) ≤ 5 ∧ (5 : ℚ) ≤ 50 by norm_num,
      hentries⟩
  have hfee : isValidEntryFee .SOL 1000000 = true := by decide
  refine ⟨hvalid, ⟨Db.empty, created_iff.mpr ⟨hfee, htotal, rfl⟩⟩, ⟨rfl, rfl⟩, ?_, ?_, ?_, rfl,
    rfl, ?_, fun r hr => ?_⟩
  · rw [hlength]
    exact hplayers.1
  · rw [hlength]
    exact hplayers.2
  · exact Table.findOne_save_self Table.empty (smallEscrow placements.length)
  · rw [hlength]
    rfl
  · rcases List.mem_map.mp hr with ⟨p, -, rfl⟩
    rfl

/-- Of four players nobody is third, so the default prizes for the first three
    places are not all paid. And a fixed amount that is more than what was
    collected makes the payout throw. -/
theorem not_payableAtEnd :
    (AtEnd (smallRequest []) (smallStore 4) (newTournament (smallRequest [])) (smallEscrow 4)
        (placedPlayers [("a", 1), ("b", 4), ("c", 2), ("d", 4)]) ∧
      ¬PayableAtEnd (smallStore 4) (newTournament (smallRequest []))
        (placedPlayers [("a", 1), ("b", 4), ("c", 2), ("d", 4)])) ∧
    AtEnd (smallRequest [{ place := 1, percentage := 0, fixedAmount := some "5000000" }])
        (smallStore 2)
        (newTournament (smallRequest
          [{ place := 1, percentage := 0, fixedAmount := some "5000000" }]))
        (smallEscrow 2) (placedPlayers [("a", 1), ("b", 2)]) ∧
      ((distributeTournamentPrizes (newTournament (smallRequest
          [{ place := 1, percentage := 0, fixedAmount := some "5000000" }]))
        (placedPlayers [("a", 1), ("b", 2)])).eval (smallStore 2)).1.toBool = false := by
  refine ⟨⟨?_, ?_⟩, ?_, ?_⟩
  · exact smallRequest_atEnd [] [("a", 1), ("b", 4), ("c", 2), ("d", 4)]
      (by decide) (by decide +kernel) (by decide)
  · -- The losers of the semifinals are both fourth.
    rintro ⟨record, t, -, hpaid⟩
    have hthird : ({ place := 3, percentage := 10, label := some "3rd Place" } : PrizeEntry) ∈
        (newTournament (smallRequest [])).prizeStructure := by
      decide +kernel
    rcases hpaid _ hthird rfl (by decide +kernel) with ⟨r, hr, -, -, hplace, -⟩
    have hnobody : ∀ r ∈ placedPlayers [("a", 1), ("b", 4), ("c", 2), ("d", 4)],
        r.finalPlacement ≠ some 3 := by
      decide +kernel
    exact hnobody r hr hplace
  · exact smallRequest_atEnd _ [("a", 1), ("b", 2)]
      (by decide +kernel) (by decide +kernel) (by decide)
  · decide +kernel

/-- The final of two players, which the first one wins. -/
theorem placedByPlay_two : PlacedByPlay (placedPlayers [("a", 1), ("b", 2)]) := by
  refine ⟨["a", "b"], _, ⟨.SINGLE_ELIMINATION, fun _ _ => "m", [], _,
    [⟨⟨⟨1, 1, "m"⟩, some "a", some "b", none, .pending⟩, true⟩], .start, ⟨by decide, ?_⟩, rfl, ?_⟩,
    by decide, by decide, ?_, ?_⟩
  · decide +kernel
  · decide +kernel
  · decide +kernel
  · decide +kernel

/-- A percentage for the first place and a fixed amount for the second one are
    paid to two players. -/
theorem payableAtEnd_two :
    PayableAtEnd (smallStore 2)
      (newTournament (smallRequest [{ place := 1, percentage := 60 },
        { place := 2, percentage := 0, fixedAmount := some "300000" }]))
      (placedPlayers [("a", 1), ("b", 2)]) := by
  have hatEnd := smallRequest_atEnd [{ place := 1, percentage := 60 },
      { place := 2, percentage := 0, fixedAmount := some "300000" }] [("a", 1), ("b", 2)]
    (by decide +kernel) (by decide +kernel) (by decide)
  refine ((payableAtEnd_iff hatEnd).2 placedByPlay_two).mpr ⟨?_, ?_⟩
  · decide +kernel
  · decide +kernel

end Esports

end SvmCourse
