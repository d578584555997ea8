import SvmCourse.Esports.Bracket
import SvmCourse.Esports.Matchmaking

/-!
# Tournaments

The tournament service. Registration is the same entry sequence as joining a
match. The bracket is built when registration has closed, and from then on the
tournament row carries it: every call of `advanceRound` reads the row, writes
the reported results into the bracket, and saves the row at the end.

Whether a call ends the tournament depends on the final having a winner after
the reports are written. If it has one, the call places and pays the players
and does not move any winner on; if it has none, the call moves winners on.
The row is saved once, after either branch, so a payout that throws leaves the
stored tournament as it was.

Seeding is by rating, with ties in random order: `Shuffle` is the random
choice, and a stable sort by rating follows it.

## Main definitions

* `createTournament`, `openRegistration`, `registerPlayer`,
  `closeRegistration`: Up to the closing of registration.
* `seedPlayers`, `generateBracket`, `startTournament`: Setting up play.
* `advanceRound`, `calculateFinalPlacements`: Play.
* `cancelTournament`: Calling it off.
-/

namespace SvmCourse

namespace Esports

open Core Core.Prog

/-- Find a tournament with its registrations, or say that there is none. -/
def getTournamentById (tournamentId : String) : Service LoadedTournament := do
  let t ← tournamentRepository.findOne tournamentId
  demand t (.NotFoundException s!"Tournament {tournamentSource tournamentId} not found")

/-! ### Creating -/

/-- The random part of the tournament id comes with the request. -/
structure CreateTournamentRequest where
  hex : String
  entryFee : Int
  tokenType : SupportedToken := .SOL
  guaranteedPrizePool : Int := 0
  maxParticipants : Nat
  minParticipants : Nat := 2
  bracketType : BracketType
  platformFeePercent : ℚ := 5
  prizeStrategy : PrizeDistributionStrategy := .TOP_3_SPLIT
  prizeStructure : Option (List PrizeEntry) := none
  registrationStart : Int
  registrationEnd : Int

/-- The structure of the request, or the default of the strategy when it has
    none or an empty one. -/
def tournamentPrizeStructure (request : CreateTournamentRequest) : List PrizeEntry :=
  let prizeStructure := request.prizeStructure.getD []
  if prizeStructure.isEmpty then (prizeStrategyConfig request.prizeStrategy).structure_
  else prizeStructure

/-- The row of a new tournament. -/
def newTournament (request : CreateTournamentRequest) : Tournament where
  tournamentId := request.hex
  tokenType := request.tokenType
  entryFee := request.entryFee
  prizePool := 0
  guaranteedPrizePool := request.guaranteedPrizePool
  maxParticipants := request.maxParticipants
  minParticipants := request.minParticipants
  bracketType := request.bracketType
  status := .DRAFT
  platformFeePercent := request.platformFeePercent
  prizeStrategy := request.prizeStrategy
  riskLevel := (prizeStrategyConfig request.prizeStrategy).riskLevel
  -- Given in the request, or the default of the strategy.
  prizeStructure := tournamentPrizeStructure request
  registrationStart := request.registrationStart
  registrationEnd := request.registrationEnd

/-- Create a tournament: check the fee and the prizes, and create its escrow first. -/
def createTournament (request : CreateTournamentRequest) : Service Tournament := do
  require (isValidEntryFee request.tokenType request.entryFee) (entryFeeRefusal request.tokenType)
  let total := totalPercentage (tournamentPrizeStructure request)
  require (total ≤ 100) (.BadRequestException s!"Prize structure exceeds 100%: {total}%")
  -- The escrow is there before the tournament.
  let _ ← createEscrow
    { source := tournamentSource request.hex
      platformFeePercent := request.platformFeePercent
      tokenType := request.tokenType }
  tournamentRepository.save (newTournament request)
  pure (newTournament request)

/-! ### Registration -/

/-- Open the registration of a draft. -/
def openRegistration (tournamentId : String) : Service Tournament := do
  let t ← getTournamentById tournamentId
  require (t.status = .DRAFT) (.BadRequestException
    s!"Tournament {tournamentSource tournamentId} cannot open registration")
  tournamentRepository.save { t.toTournament with status := .REGISTRATION_OPEN }
  pure { t.toTournament with status := .REGISTRATION_OPEN }

/-- What a player asks for who registers. -/
structure RegisterPlayerRequest where
  tournamentId : String
  playerId : String
  now : Int

/-- The row of a new registration. -/
def newRegistration (t : LoadedTournament) (request : RegisterPlayerRequest)
    (wallet : PlayerWallet) : TournamentRegistration where
  tournamentId := t.tournamentId
  playerId := request.playerId
  walletId := wallet.id
  status := .CONFIRMED

/-- The tournament with one fee more in its pool. -/
def afterRegistration (t : LoadedTournament) : Tournament :=
  { t.toTournament with prizePool := t.prizePool + t.entryFee }

/-- Save the registration and the tournament. -/
def registerRegistration (t : LoadedTournament) (request : RegisterPlayerRequest)
    (wallet : PlayerWallet) : Service TournamentRegistration := do
  registrationRepository.save (newRegistration t request wallet)
  tournamentRepository.save (afterRegistration t)
  pure (newRegistration t request wallet)

/-- The checks of a registration. -/
def checkRegistration (request : RegisterPlayerRequest) : Service LoadedTournament := do
  let t ← getTournamentById request.tournamentId
  require (t.isRegistrationOpen request.now) (.BadRequestException
    s!"Tournament {tournamentSource request.tournamentId} registration is not open")
  let existing ← registrationRepository.findOne t.tournamentId request.playerId
  require existing.isNone
    (.BadRequestException s!"Player {request.playerId} already registered")
  pure t

/-- What a registration pays, where to, and what it saves. -/
def registrationEntry (request : RegisterPlayerRequest) (t : LoadedTournament) :
    Entry TournamentRegistration where
  source := t.source
  playerId := request.playerId
  entryFee := t.entryFee
  register := registerRegistration t request

/-- Register a player, after the checks. -/
def registerPlayer (request : RegisterPlayerRequest) : Service TournamentRegistration := do
  let t ← checkRegistration request
  enter (registrationEntry request t)

/-- Close the registration. -/
def closeRegistration (tournamentId : String) : Service Tournament := do
  let t ← getTournamentById tournamentId
  require (t.status = .REGISTRATION_OPEN) (.BadRequestException
    s!"Tournament {tournamentSource tournamentId} registration is not open")
  tournamentRepository.save { t.toTournament with status := .REGISTRATION_CLOSED }
  pure { t.toTournament with status := .REGISTRATION_CLOSED }

/-! ### Setting up play -/

/-- The order in which a random comparison leaves a list. -/
structure Shuffle where
  order : List TournamentRegistration → List TournamentRegistration
  perm : ∀ registrations, (order registrations).Perm registrations

/-- The players by their rating, the best first, and shuffled where ratings are
    equal. -/
def seedPlayers (shuffle : Shuffle) (registrations : List TournamentRegistration) :
    List TournamentRegistration :=
  (shuffle.order registrations).insertionSort fun a b =>
    b.skillRating.getD 0 ≤ a.skillRating.getD 0

/-- The random choices of the call: the order of ties and the match ids. -/
structure GenerateBracketRequest where
  tournamentId : String
  shuffle : Shuffle
  hex : BracketHex

/-- Write the seed of a registration. -/
def seedRegistration (seeded : TournamentRegistration × Nat) : Service Unit :=
  registrationRepository.update (fun r => r.key = seeded.1.key)
    (fun r => { r with seed := some seeded.2 }) fun _ => rfl

/-- Generate the bracket: seed the players, store the bracket, and lock the escrow. -/
def generateBracket (request : GenerateBracketRequest) : Service Tournament := do
  let t ← getTournamentById request.tournamentId
  require t.canGenerateBracket (.BadRequestException
    s!"Tournament {tournamentSource request.tournamentId} cannot generate bracket")
  let registrations ← registrationRepository.find fun r =>
    r.tournamentId = t.tournamentId && r.isCounted
  require (t.minParticipants ≤ registrations.length) (.BadRequestException
    s!"Insufficient participants: {registrations.length}/{t.minParticipants}")
  let seededPlayers := seedPlayers request.shuffle registrations
  let bracket := generateBracketStructure t.bracketType request.hex
    (seededPlayers.map TournamentRegistration.playerId)
  let generated : Tournament :=
    { t.toTournament with bracket := some bracket, status := .BRACKET_GENERATED }
  -- Seeds are counted from one.
  each (seededPlayers.zipIdx 1) seedRegistration
  tournamentRepository.save generated
  let escrow ← getEscrowBySource t.source
  let _ ← lockEscrow escrow.escrowId
  pure generated

/-- The random parts of the match ids, by position in the first round. -/
structure StartTournamentRequest where
  tournamentId : String
  hex : Nat → String

/-- The matches of the first round, as far as there is a bracket. -/
def firstRoundMatches (t : Tournament) : List BracketMatch :=
  match t.bracket with
  | some bracket => (bracket.rounds.head?.map BracketRound.matchList).getD []
  | none => []

/-- The match row for one pairing, when both players are there. -/
def createPairing (hex : Nat → String) (pairing : BracketMatch × Nat) : Service Unit :=
  if truthy pairing.1.player1Id && truthy pairing.1.player2Id then do
    let _ ← createMatch
      { hex := hex pairing.2
        entryFee := 0 -- Entry already paid to tournament
        minPlayers := 2
        maxPlayers := 2
        platformFeePercent := 0 } -- Fee handled at tournament level
    pure ()
  else pure ()

/-- Start the tournament: create a match for each pairing of the first round. -/
def startTournament (request : StartTournamentRequest) : Service Tournament := do
  let t ← getTournamentById request.tournamentId
  require (t.status = .BRACKET_GENERATED) (.BadRequestException
    s!"Tournament {tournamentSource request.tournamentId} bracket not generated")
  each (firstRoundMatches t.toTournament).zipIdx (createPairing request.hex)
  tournamentRepository.save { t.toTournament with status := .IN_PROGRESS }
  pure { t.toTournament with status := .IN_PROGRESS }

/-! ### Play -/

/-- Write the place of a registration. -/
def placeRegistration (tournamentId : String) (placement : String × ℚ) : Service Unit :=
  registrationRepository.update (fun r => r.key = (tournamentId, placement.1))
    (fun r => { r with finalPlacement := some placement.2 }) fun _ => rfl

/-- Write the places of all players. -/
def calculateFinalPlacements (t : Tournament) : Service Unit :=
  let bracket := t.bracket.getD ⟨[]⟩
  each (finalPlacements bracket).rows (placeRegistration t.tournamentId)

/-- What a caller reports of a round. -/
structure AdvanceRoundRequest where
  tournamentId : String
  results : List BracketResult
  now : Int

/-- What follows once the final has a winner, up to the save of the row. -/
def completeTournament (t : Tournament) : Service Unit := do
  let _ ← registrationRepository.find fun r => r.tournamentId = t.tournamentId
  calculateFinalPlacements t
  let updatedRegistrations ← registrationRepository.find fun r => r.tournamentId = t.tournamentId
  let _ ← distributeTournamentPrizes t updatedRegistrations
  pure ()

/-- The tournament when its final is decided. -/
def completedTournament (t : Tournament) (recorded : Bracket) (now : Int) : Tournament :=
  { t with bracket := some recorded, status := .COMPLETED, endDate := some now }

/-- The tournament with its winners moved on. -/
def advancedTournament (t : Tournament) (recorded : Bracket) : Tournament :=
  { t with bracket := some (advanceWinnersToNextRound recorded) }

/-- What a call does once the results are in the bracket: finish the tournament
    if the final has a winner, move winners on if it has none. -/
def settleRound (t : Tournament) (recorded : Bracket) (now : Int) : Service Tournament :=
  if finalDecided recorded then do
    completeTournament (completedTournament t recorded now)
    tournamentRepository.save (completedTournament t recorded now)
    pure (completedTournament t recorded now)
  else do
    tournamentRepository.save (advancedTournament t recorded)
    pure (advancedTournament t recorded)

/-- Advance a round: record the results, and complete the tournament when the final is
    decided. -/
def advanceRound (request : AdvanceRoundRequest) : Service Tournament := do
  let t ← getTournamentById request.tournamentId
  require (t.status = .IN_PROGRESS) (.BadRequestException
    s!"Tournament {tournamentSource request.tournamentId} is not in progress")
  let bracket ← demand t.bracket
    (.TypeError "Cannot read properties of undefined (reading 'rounds')")
  settleRound t.toTournament (recordResults bracket request.results) request.now

/-! ### Calling it off -/

/-- Unlock the fee of a registration, and save the registration as withdrawn. -/
def refundRegistration (t : Tournament) (registration : TournamentRegistration) :
    Service Unit := do
  let _ ← unlockFunds
    { playerId := registration.playerId, amount := t.entryFee, reference := t.source }
  registrationRepository.save { registration with status := .WITHDRAWN }

/-- Cancel a tournament: refund the escrow, then each registration. -/
def cancelTournament (tournamentId : String) (now : Int) : Service Tournament := do
  let t ← getTournamentById tournamentId
  require (t.status ≠ .COMPLETED) (.BadRequestException "Cannot cancel completed tournament")
  let escrow ← getEscrowBySource t.source
  -- All deposits are paid back at once, and then the entrants' fees are to be
  -- unlocked.
  let _ ← refundEscrow { escrowId := escrow.escrowId }
  let registrations ← registrationRepository.find fun r =>
    r.tournamentId = t.tournamentId && r.status = .CONFIRMED
  each registrations (refundRegistration t.toTournament)
  let cancelled : Tournament := { t.toTournament with status := .CANCELLED, endDate := some now }
  tournamentRepository.save cancelled
  pure cancelled

/-- Seeding orders the registrations and drops none. -/
theorem seedPlayers_perm (shuffle : Shuffle) (registrations : List TournamentRegistration) :
    (seedPlayers shuffle registrations).Perm registrations :=
  (List.perm_insertionSort ..).trans (shuffle.perm registrations)

/-! ### Reading a tournament -/

/-- A tournament is read together with exactly its own registrations. -/
theorem getTournamentById_ensures {C : Prop} (tournamentId : String) (s : Db) :
    (getTournamentById tournamentId).Ensures C s fun r t => t = s ∧ match r with
      | .ok tournament => s.tournaments.findOne tournamentId = some tournament.toTournament ∧
          tournament.registrations = s.registrations.find fun r => r.tournamentId = tournamentId
      | .error _ => C ∨ s.tournaments.findOne tournamentId = none := by
  refine ensures_bind (ensures_perform ?_ fun hc => ⟨rfl, Or.inl hc⟩)
  refine ensures_demand (fun t ht => ?_) (fun hnone => ?_)
  · rcases Option.map_eq_some_iff.mp ht with ⟨row, hrow, rfl⟩
    exact ⟨rfl, hrow, rfl⟩
  · exact ⟨rfl, Or.inr (Option.map_eq_none_iff.mp hnone)⟩

/-- Without a refused access a tournament is read with its registrations, unless
    there is none. -/
theorem getTournamentById_calm {tournamentId : String} {s : Db}
    {Q : Except ServiceError LoadedTournament → Db → Prop}
    (hnone : ∀ e, s.tournaments.findOne tournamentId = none → Q (.error e) s)
    (hfind : ∀ x : LoadedTournament, s.tournaments.findOne tournamentId = some x.toTournament →
      (x.registrations = s.registrations.find fun r => r.tournamentId = tournamentId) →
        Q (.ok x) s) :
    (getTournamentById tournamentId).Ensures False s Q := by
  refine ensures_mono (getTournamentById_ensures tournamentId s) fun r t ht => ?_
  rcases ht with ⟨rfl, hr⟩
  cases r with
  | error e => exact hnone e (hr.resolve_left id)
  | ok x => exact hfind x hr.1 hr.2

/-- The tournament as reading it gives it. -/
def Db.loaded (db : Db) (t : Tournament) : LoadedTournament where
  toTournament := t
  registrations := db.registrations.find fun r => r.tournamentId = t.tournamentId

theorem getTournamentById_eval {s : Db} {tournamentId : String} {t : Tournament}
    (h : s.tournaments.findOne tournamentId = some t) :
    (getTournamentById tournamentId).eval s = (.ok (s.loaded t), s) := by
  have hkey : t.tournamentId = tournamentId := Table.key_of_findOne h
  unfold getTournamentById tournamentRepository.findOne query
  rw [bind_eq, eval_bind_ok (eval_perform ..), h, Option.map_some, eval_demand_some]
  simp only [Db.loaded, hkey]

/-- The checks of a registration write nothing, and hand on an open tournament
    in which the player is not registered. -/
theorem checkRegistration_ensures {C : Prop} (request : RegisterPlayerRequest) (s : Db) :
    (checkRegistration request).Ensures C s fun r t => t = s ∧ ∀ tournament, r = .ok tournament →
      s.tournaments.findOne request.tournamentId = some tournament.toTournament ∧
      (tournament.registrations =
        s.registrations.find fun r => r.tournamentId = request.tournamentId) ∧
      tournament.isRegistrationOpen request.now = true ∧
      s.registrations.findOne (tournament.tournamentId, request.playerId) = none := by
  refine ensures_bind (ensures_mono (getTournamentById_ensures request.tournamentId s)
    fun r t ht => ?_)
  rcases ht with ⟨rfl, hr⟩
  cases r with
  | error e => exact ⟨rfl, fun _ h => nomatch h⟩
  | ok tournament =>
      refine ensures_bind (ensures_require (fun hopen => ?_) fun _ => ⟨rfl, fun _ h => nomatch h⟩)
      refine ensures_bind (ensures_perform ?_ fun _ => ⟨rfl, fun _ h => nomatch h⟩)
      -- The row of the player is looked for after the tournament was found open.
      refine ensures_bind (ensures_require (fun hnew => ?_) fun _ => ⟨rfl, fun _ h => nomatch h⟩)
      refine ⟨rfl, fun found h => ?_⟩
      rw [← Except.ok.inj h]
      exact ⟨hr.1, hr.2, hopen, Option.isNone_iff_eq_none.mp hnew⟩

/-- Creating the match of a pairing is rejected, since its entry fee is zero,
    and a pairing without two players needs no match. -/
theorem createPairing_ensures {C : Prop} {s : Db} (hex : Nat → String)
    (pairing : BracketMatch × Nat) :
    (createPairing hex pairing).Ensures C s fun r t => t = s ∧
      (r = .ok () ↔ (truthy pairing.1.player1Id && truthy pairing.1.player2Id) = false) := by
  unfold createPairing
  by_cases hboth : (truthy pairing.1.player1Id && truthy pairing.1.player2Id) = true
  · rw [if_pos hboth]
    have hzero : isValidEntryFee .SOL 0 = false := by decide
    refine ensures_bind (ensures_bind (ensures_require (fun h => ?_) fun _ => ?_))
    · exact nomatch hzero.symm.trans h
    · rw [hboth]
      exact ⟨rfl, ⟨fun h => (nomatch h), fun h => (nomatch h)⟩⟩
  · rw [if_neg hboth]
    rw [Bool.not_eq_true] at hboth
    exact ⟨rfl, ⟨fun _ => hboth, fun _ => rfl⟩⟩

end Esports

end SvmCourse
