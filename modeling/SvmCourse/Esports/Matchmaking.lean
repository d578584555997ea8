import SvmCourse.Esports.Prize

/-!
# Matchmaking

The match service. Entering a match and entering a tournament are one
sequence of calls in the source, and `enter` is that sequence: find the wallet,
lock the fee, and then, under one handler that unlocks it again, find the
escrow, deposit, deduct, and write the rows of the match or tournament. The
handler does not know how far the sequence got.

A match object holds the participants that were stored when it was read. The
participant row written while joining is not among them.

## Main definitions

* `createMatch`: Opening a match with its escrow.
* `Entry`, `enter`, `enterBody`: Paying an entry fee.
* `joinMatch`, `startMatch`, `submitResult`, `cancelMatch`: The life of a
  match.
-/

namespace SvmCourse

namespace Esports

open Core Core.Prog

/-- Find a match with its participants, or say that there is none. -/
def getMatchById (matchId : String) : Service LoadedMatch := do
  let m ← matchRepository.findOne matchId
  demand m (.NotFoundException s!"Match {matchSource matchId} not found")

/-- The error for an entry fee that is out of bounds. -/
def entryFeeRefusal (tokenType : SupportedToken) : ServiceError :=
  let config := tokenConfig tokenType
  let displayMin := toDisplayAmount tokenType config.minEntryFee
  let displayMax := toDisplayAmount tokenType config.maxEntryFee
  .BadRequestException (s!"{config.symbol} entry fee must be between {displayMin} and " ++
    s!"{displayMax} {config.symbol}")

/-! ### Creating -/

/-- The random part of the match id comes with the request. -/
structure CreateMatchRequest where
  hex : String
  entryFee : Int
  tokenType : SupportedToken := .SOL
  minPlayers : Nat := 2
  maxPlayers : Nat := 2
  platformFeePercent : ℚ := 5
  prizeStrategy : PrizeDistributionStrategy := .WINNER_TAKES_ALL
  prizeStructure : Option (List PrizeEntry) := none

/-- What the percentages of a structure add up to. -/
def totalPercentage (prizeStructure : List PrizeEntry) : ℚ :=
  (prizeStructure.map PrizeEntry.percentage).sum

/-- The checks on a custom prize structure and on the number of seats. -/
def checkPrizeStrategy (request : CreateMatchRequest) : Except ServiceError Unit :=
  let prizeStructure := request.prizeStructure.getD []
  if request.prizeStrategy = .CUSTOM ∧ prizeStructure = [] then
    .error (.BadRequestException "Prize structure is required for CUSTOM strategy")
  -- Exactly one hundred, whereas a tournament may stay below.
  else if request.prizeStrategy = .CUSTOM ∧ totalPercentage prizeStructure ≠ 100 then
    .error (.BadRequestException
      s!"Prize structure percentages must sum to 100, got {totalPercentage prizeStructure}")
  else if request.prizeStrategy = .TOP_3_SPLIT ∧ request.maxPlayers < 3 then
    .error (.BadRequestException "TOP_3_SPLIT strategy requires at least 3 players")
  else if request.prizeStrategy = .PERFORMANCE_MVP ∧ request.maxPlayers < 2 then
    .error (.BadRequestException "PERFORMANCE_MVP strategy requires at least 2 players")
  else .ok ()

/-- The row of a new match. -/
def newMatch (request : CreateMatchRequest) : Match where
  matchId := request.hex
  tokenType := request.tokenType
  entryFee := request.entryFee
  minPlayers := request.minPlayers
  maxPlayers := request.maxPlayers
  -- The pool grows with the entries.
  prizePool := 0
  platformFeePercent := request.platformFeePercent
  prizeStrategy := request.prizeStrategy
  riskLevel := (prizeStrategyConfig request.prizeStrategy).riskLevel
  prizeStructure :=
    request.prizeStructure.getD (prizeStrategyConfig request.prizeStrategy).structure_
  status := .CREATED

/-- Create a match: check the fee and the prizes, and create its escrow first. -/
def createMatch (request : CreateMatchRequest) : Service Match := do
  require (isValidEntryFee request.tokenType request.entryFee) (entryFeeRefusal request.tokenType)
  compute (checkPrizeStrategy request)
  let _ ← createEscrow
    { source := matchSource request.hex
      platformFeePercent := request.platformFeePercent
      tokenType := request.tokenType }
  matchRepository.save (newMatch request)
  pure (newMatch request)

/-! ### Entering -/

/-- What an entry into a match or tournament is about: whose escrow, which
    player, which fee, and the rows that record the entry. -/
structure Entry (α : Type) where
  source : SourceId
  playerId : String
  entryFee : Int
  register : PlayerWallet → Service α

/-- Find the wallet of the player, and lock the fee in it. -/
def lockEntry {α : Type} (entry : Entry α) : Service PlayerWallet := do
  let wallet ← getWallet entry.playerId
  let _ ← lockFunds
    { playerId := entry.playerId, amount := entry.entryFee, reference := entry.source }
  pure wallet

/-- Everything after the fee is locked: the escrow, the deposit, the deduction
    and the caller's own rows. -/
def enterBody {α : Type} (entry : Entry α) (wallet : PlayerWallet) : Service α := do
  let escrow ← getEscrowBySource entry.source
  let _ ← depositToEscrow
    { escrowId := escrow.escrowId
      walletId := wallet.id
      amount := entry.entryFee }
  deductEntryFee entry.playerId entry.entryFee
  entry.register wallet

/-- Unlock the fee again when the entry fails. -/
def rollbackEntry {α : Type} (entry : Entry α) (_ : ServiceError) : Service Unit := do
  let _ ← unlockFunds
    { playerId := entry.playerId, amount := entry.entryFee, reference := entry.source }
  pure ()

/-- Let a player in: lock the fee, pay it into the escrow, and register the player. -/
def enter {α : Type} (entry : Entry α) : Service α := do
  let wallet ← lockEntry entry
  (enterBody entry wallet).onError (rollbackEntry entry)

/-- What a player asks for who joins a match. -/
structure JoinMatchRequest where
  matchId : String
  playerId : String

/-- The row of a new participant. -/
def newParticipant (m : LoadedMatch) (request : JoinMatchRequest) (wallet : PlayerWallet) :
    MatchParticipant where
  matchId := m.matchId
  playerId := request.playerId
  walletId := wallet.id
  status := .JOINED

/-- The match row after one more entry. Readiness is judged on the
    participants the object was loaded with. -/
def afterJoin (m : LoadedMatch) : Match :=
  let status := if m.status = .CREATED then .WAITING else m.status
  { m.toMatch with
    prizePool := m.prizePool + m.entryFee
    status := if m.isReady then .READY else status }

/-- Save the participant and the match. -/
def registerParticipant (m : LoadedMatch) (request : JoinMatchRequest) (wallet : PlayerWallet) :
    Service MatchParticipant := do
  participantRepository.save (newParticipant m request wallet)
  matchRepository.save (afterJoin m)
  pure (newParticipant m request wallet)

/-- The checks of a join. -/
def checkJoin (request : JoinMatchRequest) : Service LoadedMatch := do
  let m ← getMatchById request.matchId
  require m.isJoinable
    (.BadRequestException s!"Match {matchSource request.matchId} is not accepting players")
  let existingParticipant ← participantRepository.findOne m.matchId request.playerId
  require existingParticipant.isNone (.BadRequestException
    s!"Player {request.playerId} already joined match {matchSource request.matchId}")
  pure m

/-- What joining a match pays, where to, and what it registers. -/
def joinEntry (request : JoinMatchRequest) (m : LoadedMatch) : Entry MatchParticipant where
  source := m.source
  playerId := request.playerId
  entryFee := m.entryFee
  register := registerParticipant m request

/-- Join a match, after the checks. -/
def joinMatch (request : JoinMatchRequest) : Service MatchParticipant := do
  let m ← checkJoin request
  enter (joinEntry request m)

/-! ### Playing -/

theorem playing_key (p : MatchParticipant) :
    MatchParticipant.key { p with status := .PLAYING } = p.key := rfl

/-- Start a match that is ready, and lock its escrow. -/
def startMatch (matchId : String) (now : Int) : Service Match := do
  let m ← getMatchById matchId
  require m.canStart (.BadRequestException s!"Match {matchSource matchId} cannot be started")
  let escrow ← getEscrowBySource (matchSource matchId)
  -- From here on the escrow can be released, and no longer be paid into.
  let _ ← lockEscrow escrow.escrowId
  participantRepository.update (fun p => p.matchId = m.matchId ∧ p.status = .JOINED)
    (fun p => { p with status := .PLAYING }) playing_key
  let started : Match := { m.toMatch with status := .IN_PROGRESS, startedAt := some now }
  matchRepository.save started
  pure started

/-- The fields of the request that the service reads, and the instant of the
    call. -/
structure SubmitResultRequest where
  matchId : String
  winnerIds : List String
  scores : Option Scores := none
  mvpPlayerId : Option String := none
  now : Int

/-- The checks on a submitted result, given the ids of the participants. -/
def checkResult (m : Match) (request : SubmitResultRequest) (participantPlayerIds : List String) :
    Except ServiceError Unit :=
  let invalidWinners := request.winnerIds.filter fun id => !participantPlayerIds.contains id
  let invalidList := String.intercalate ", " invalidWinners
  let mvpText := request.mvpPlayerId.getD ""
  -- A result without winners passes this check.
  if invalidWinners ≠ [] then
    .error (.BadRequestException s!"Invalid winner IDs: {invalidList}")
  else if m.prizeStrategy = .PERFORMANCE_MVP ∧ truthy request.mvpPlayerId = false then
    .error (.BadRequestException
      "MVP player ID is required for PERFORMANCE_MVP prize strategy")
  else if m.prizeStrategy = .PERFORMANCE_MVP ∧
      (request.mvpPlayerId.any participantPlayerIds.contains) = false then
    .error (.BadRequestException s!"MVP player {mvpText} is not a match participant")
  else .ok ()

/-- The match once its result is recorded. -/
def afterResult (m : Match) (request : SubmitResultRequest) : Match :=
  { m with
    result := some
      { winnerIds := request.winnerIds
        scores := request.scores
        mvpPlayerId := request.mvpPlayerId }
    status := .COMPLETED
    endedAt := some request.now
    winnerId := request.winnerIds.head? }

/-- Players by descending score, or the winners in the order given. -/
def rankedPlayerIds (request : SubmitResultRequest) : List String :=
  match request.scores with
  | some scores => (scores.rows.insertionSort fun a b => b.2 ≤ a.2).map Prod.fst
  | none => request.winnerIds

/-- Write the place of a player who has finished. -/
def finishParticipant (matchId playerId : String) (placement : Nat) : Service Unit :=
  participantRepository.update (fun p => p.key = (matchId, playerId))
    (fun p => { p with status := .FINISHED, placement := some placement }) fun _ => rfl

/-- Submit the result of a match: record it, place the players, and pay the prizes. -/
def submitResult (request : SubmitResultRequest) : Service Match := do
  let m ← getMatchById request.matchId
  require (m.status = .IN_PROGRESS)
    (.BadRequestException s!"Match {matchSource request.matchId} is not in progress")
  let participants ← participantRepository.find fun p => p.matchId = m.matchId
  let participantPlayerIds := participants.map MatchParticipant.playerId
  compute (checkResult m.toMatch request participantPlayerIds)
  let completed := afterResult m.toMatch request
  matchRepository.save completed
  each ((rankedPlayerIds request).zipIdx 1) fun ranked =>
    finishParticipant m.matchId ranked.1 ranked.2
  -- Everyone who is not among the winners shares the place after them.
  each (participantPlayerIds.filter fun id => !request.winnerIds.contains id) fun loserId =>
    finishParticipant m.matchId loserId (request.winnerIds.length + 1)
  let _ ← distributeMatchPrizes completed participants
  matchRepository.save { completed with status := .SETTLED }
  pure { completed with status := .SETTLED }

/-! ### Cancelling -/

/-- Unlock the fee of a participant, and save the participant as withdrawn. -/
def refundParticipant (m : Match) (participant : MatchParticipant) : Service Unit := do
  let _ ← unlockFunds
    { playerId := participant.playerId, amount := m.entryFee, reference := m.source }
  participantRepository.save { participant with status := .WITHDRAWN }

/-- Cancel a match: refund the escrow, then each participant. -/
def cancelMatch (matchId : String) (now : Int) : Service Match := do
  let m ← getMatchById matchId
  require (!([MatchStatus.COMPLETED, .SETTLED, .CANCELLED].contains m.status))
    (.BadRequestException s!"Match {matchSource matchId} cannot be cancelled")
  let escrow ← getEscrowBySource (matchSource matchId)
  -- All deposits are paid back at once.
  let _ ← refundEscrow { escrowId := escrow.escrowId }
  let participants ← participantRepository.find fun p =>
    p.matchId = m.matchId && [ParticipantStatus.JOINED, .PLAYING].contains p.status
  -- Then each player's locked fee is to be unlocked, which throws, as the entry
  -- deducted it.
  each participants (refundParticipant m.toMatch)
  let cancelled : Match := { m.toMatch with status := .CANCELLED, endedAt := some now }
  matchRepository.save cancelled
  pure cancelled

/-! ### Reading a match -/

/-- A match is read together with exactly its own participants. -/
theorem getMatchById_ensures {C : Prop} (matchId : String) (s : Db) :
    (getMatchById matchId).Ensures C s fun r t => t = s ∧ match r with
      | .ok m => s.matchRows.findOne matchId = some m.toMatch ∧
          m.participants = s.participants.find fun p => p.matchId = matchId
      | .error _ => C ∨ s.matchRows.findOne matchId = none := by
  refine ensures_bind (ensures_perform ?_ fun hc => ⟨rfl, Or.inl hc⟩)
  refine ensures_demand (fun m hm => ?_) (fun hnone => ?_)
  · rcases Option.map_eq_some_iff.mp hm with ⟨row, hrow, rfl⟩
    exact ⟨rfl, hrow, rfl⟩
  · exact ⟨rfl, Or.inr (Option.map_eq_none_iff.mp hnone)⟩

/-- Without a refused access a match is read with its players, unless there is
    none. -/
theorem getMatchById_calm {matchId : String} {s : Db}
    {Q : Except ServiceError LoadedMatch → Db → Prop}
    (hnone : ∀ e, s.matchRows.findOne matchId = none → Q (.error e) s)
    (hfind : ∀ m : LoadedMatch, s.matchRows.findOne matchId = some m.toMatch →
      (m.participants = s.participants.find fun p => p.matchId = matchId) → Q (.ok m) s) :
    (getMatchById matchId).Ensures False s Q := by
  refine ensures_mono (getMatchById_ensures matchId s) fun r t ht => ?_
  rcases ht with ⟨rfl, hr⟩
  cases r with
  | error e => exact hnone e (hr.resolve_left id)
  | ok m => exact hfind m hr.1 hr.2

/-- The match as reading it gives it. -/
def Db.loadedMatch (db : Db) (m : Match) : LoadedMatch where
  toMatch := m
  participants := db.participants.find fun p => p.matchId = m.matchId

/-- The checks of a join write nothing, and hand on a joinable match in which
    the player does not take part. -/
theorem checkJoin_ensures {C : Prop} (request : JoinMatchRequest) (s : Db) :
    (checkJoin request).Ensures C s fun r t => t = s ∧ ∀ m, r = .ok m →
      s.matchRows.findOne request.matchId = some m.toMatch ∧
      (m.participants = s.participants.find fun p => p.matchId = request.matchId) ∧
      m.isJoinable = true ∧ s.participants.findOne (m.matchId, request.playerId) = none := by
  refine ensures_bind (ensures_mono (getMatchById_ensures request.matchId s) fun r t ht => ?_)
  rcases ht with ⟨rfl, hr⟩
  cases r with
  | error e => exact ⟨rfl, fun _ h => nomatch h⟩
  | ok m =>
      refine ensures_bind (ensures_require (fun hjoin => ?_) fun _ => ⟨rfl, fun _ h => nomatch h⟩)
      refine ensures_bind (ensures_perform ?_ fun _ => ⟨rfl, fun _ h => nomatch h⟩)
      refine ensures_bind (ensures_require (fun hnew => ?_) fun _ => ⟨rfl, fun _ h => nomatch h⟩)
      refine ⟨rfl, fun found h => ?_⟩
      rw [← Except.ok.inj h]
      exact ⟨hr.1, hr.2, hjoin, Option.isNone_iff_eq_none.mp hnew⟩

end Esports

end SvmCourse
