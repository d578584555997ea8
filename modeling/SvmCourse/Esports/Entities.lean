import SvmCourse.Core.Table
import SvmCourse.Esports.Token

/-!
# Entities of the Esports Module

The rows of the seven tables the services share, with the helper methods the
entities carry.

Two identifications keep the rows small. A match or tournament has a database
id and a public id, both unique and both fixed when the row is created, so one
field stands for the pair. The public ids of matches and tournaments are
random hexadecimal strings behind a prefix, and a `SourceId` is that string
with the prefix read off, which is also the key under which an escrow is
found.

Columns that no modelled function reads back are left out: names,
descriptions, addresses, signatures produced by the simulation and the
timestamps of the database. An optional column whose empty string counts as
missing keeps its string, and `truthy` decides.

## Main definitions

* `SourceId`: The match or tournament an escrow belongs to.
* `PlayerWallet`, `WalletTransaction`: The wallet and its audit trail.
* `EscrowAccount`, `EscrowTransaction`: The escrow and its audit trail.
* `PrizeEntry`, `PrizeDistribution`: A prize rule and a recorded payout.
* `Match`, `MatchParticipant`: A match and the players in it.
* `Bracket`, `Tournament`, `TournamentRegistration`: A tournament, its bracket
  and the players registered for it.
* `LoadedMatch`, `LoadedTournament`: A row together with the related rows as
  they stood when it was read.
-/

namespace SvmCourse

namespace Esports

open Core

/-- Whether an optional string counts as true in a condition. -/
def truthy (value : Option String) : Bool :=
  match value with
  | some text => text != ""
  | none => false

/-- `value || undefined` and `value || null`. -/
def orMissing (value : Option String) : Option String := if truthy value then value else none

/-! ### Sources of an escrow -/

/-- What an escrow belongs to. -/
inductive EscrowSourceType where
  | MATCH | TOURNAMENT
  deriving DecidableEq, Repr

instance : ToString EscrowSourceType where
  toString
    | .MATCH => "match"
    | .TOURNAMENT => "tournament"

/-- A match or tournament by its public id, which is the prefix of the source
    type followed by random hexadecimal digits. -/
structure SourceId where
  sourceType : EscrowSourceType
  hex : String
  deriving DecidableEq, Repr

instance : ToString SourceId where
  toString source := s!"{source.sourceType}_{source.hex}"

/-- The name of a match among the sources. -/
abbrev matchSource (matchId : String) : SourceId := ⟨.MATCH, matchId⟩

/-- The name of a tournament among the sources. -/
abbrev tournamentSource (tournamentId : String) : SourceId := ⟨.TOURNAMENT, tournamentId⟩

/-! ### Wallets -/

/-- The statuses of a wallet. -/
inductive PlayerWalletStatus where
  | CREATING | ACTIVE | LOCKED | SUSPENDED | CLOSED
  deriving DecidableEq, Repr

/-- The id is assigned by the database, one per player. -/
structure PlayerWallet where
  id : Nat
  playerId : String
  availableBalance : Int
  lockedBalance : Int
  totalDeposited : Int
  totalWithdrawn : Int
  totalWinnings : Int
  totalEntryFees : Int
  status : PlayerWalletStatus
  dailyWithdrawalAmount : Int
  dailyWithdrawalResetAt : Option Int
  lastWithdrawalAt : Option Int
  deriving DecidableEq, Repr

namespace PlayerWallet

/-- The wallet can be used. -/
def isActive (wallet : PlayerWallet) : Bool := wallet.status = .ACTIVE

/-- What can be spent and what is locked, together. -/
def getTotalBalance (wallet : PlayerWallet) : Int :=
  wallet.availableBalance + wallet.lockedBalance

/-- The amount can be withdrawn. -/
def canWithdraw (wallet : PlayerWallet) (amount : Int) : Bool :=
  wallet.isActive && amount ≤ wallet.availableBalance

/-- The amount can be locked. -/
def canLock (wallet : PlayerWallet) (amount : Int) : Bool :=
  wallet.isActive && amount ≤ wallet.availableBalance

end PlayerWallet

/-- The kinds of rows that a wallet has. -/
inductive WalletTransactionType where
  | DEPOSIT | WITHDRAWAL | ENTRY_FEE | PRIZE_WIN | REFUND | PLATFORM_FEE | TRANSFER_IN
  | TRANSFER_OUT
  deriving DecidableEq, Repr

/-- The statuses of these rows. -/
inductive WalletTransactionStatus where
  | PENDING | PROCESSING | COMPLETED | FAILED | CANCELLED
  deriving DecidableEq, Repr

/-- A row of the wallet transactions. -/
structure WalletTransaction where
  walletId : Nat
  type : WalletTransactionType
  amount : Int
  signature : Option String := none
  reference : Option SourceId := none
  status : WalletTransactionStatus
  failureReason : Option String := none
  deriving DecidableEq, Repr

/-! ### Escrows -/

/-- The statuses of an escrow. -/
inductive EscrowStatus where
  | CREATED | ACTIVE | LOCKED | RELEASING | RELEASED | REFUNDING | REFUNDED | CLOSED
  deriving DecidableEq, Repr

/-- The escrow of one source. Creating an escrow is refused when its source
    already has one, so the source names the row as well as the random
    `escrowId` does, and stands for it. -/
structure EscrowAccount where
  escrowId : SourceId
  tokenType : SupportedToken
  totalDeposited : Int
  totalReleased : Int
  totalRefunded : Int
  platformFeeCollected : Int
  currentBalance : Int
  status : EscrowStatus
  platformFeePercent : ℚ
  deriving DecidableEq

namespace EscrowAccount

/-- The escrow takes deposits. -/
def isActive (escrow : EscrowAccount) : Bool :=
  [EscrowStatus.CREATED, .ACTIVE].contains escrow.status

/-- The escrow is locked. -/
def isLocked (escrow : EscrowAccount) : Bool := escrow.status = .LOCKED

/-- A deposit can be made. -/
def canDeposit (escrow : EscrowAccount) : Bool := escrow.isActive

/-- The escrow can be released. -/
def canRelease (escrow : EscrowAccount) : Bool :=
  escrow.status = .LOCKED && 0 < escrow.currentBalance

/-- The escrow can be refunded. -/
def canRefund (escrow : EscrowAccount) : Bool :=
  [EscrowStatus.ACTIVE, .LOCKED].contains escrow.status && 0 < escrow.currentBalance

end EscrowAccount

/-- The kinds of rows that an escrow has. -/
inductive EscrowTransactionType where
  | DEPOSIT | RELEASE | REFUND | PLATFORM_FEE
  deriving DecidableEq, Repr

/-- A row of the escrow transactions. -/
structure EscrowTransaction where
  escrowId : SourceId
  type : EscrowTransactionType
  participantWalletId : Option Nat := none
  amount : Int
  placement : Option ℚ := none
  deriving DecidableEq

/-! ### Prizes -/

/-- How prizes are split. -/
inductive PrizeDistributionStrategy where
  | WINNER_TAKES_ALL | TOP_3_SPLIT | PERFORMANCE_MVP | CUSTOM
  deriving DecidableEq, Repr

/-- How risky a split is for those who play. -/
inductive PrizeRiskLevel where
  | HIGH | MEDIUM | LOW
  deriving DecidableEq, Repr

/-- The statuses of a distribution. -/
inductive PrizeDistributionStatus where
  | PENDING | CALCULATING | PROCESSING | COMPLETED | PARTIAL | FAILED
  deriving DecidableEq, Repr

/-- One entry of a prize structure. Only tournaments set a fixed amount, which is
    any text. -/
structure PrizeEntry where
  place : ℚ
  percentage : ℚ
  fixedAmount : Option String := none
  label : Option String := none
  isMvp : Bool := false
  deriving DecidableEq

/-- How much a player gets, and for which place. -/
structure PrizeCalculation where
  walletId : Nat
  playerId : String
  placement : ℚ
  amount : Int
  percentage : ℚ
  label : Option String
  isMvp : Bool
  deriving DecidableEq

/-- The statuses of an entry. -/
inductive DistributionEntryStatus where
  | pending | completed | failed
  deriving DecidableEq, Repr

/-- A payment of a distribution, and what became of it. -/
structure DistributionEntry extends PrizeCalculation where
  status : DistributionEntryStatus
  failureReason : Option String := none
  deriving DecidableEq

/-- A row of the distributions. -/
structure PrizeDistribution where
  sourceId : SourceId
  totalPrizePool : Int
  platformFee : Int
  distributableAmount : Int
  distributedAmount : Int
  status : PrizeDistributionStatus
  strategy : PrizeDistributionStrategy
  riskLevel : PrizeRiskLevel
  distributions : List DistributionEntry
  lastError : Option String := none
  deriving DecidableEq

/-- All payments went through. -/
def PrizeDistribution.isFullyDistributed (prizeDistribution : PrizeDistribution) : Bool :=
  prizeDistribution.distributions.all fun d => d.status = .completed

/-! ### Matches -/

/-- The statuses of a match. -/
inductive MatchStatus where
  | CREATED | WAITING | READY | STARTING | IN_PROGRESS | COMPLETED | DISPUTED | CANCELLED
  | SETTLED
  deriving DecidableEq, Repr

/-- The statuses of a participant. -/
inductive ParticipantStatus where
  | PENDING | JOINED | READY | PLAYING | FINISHED | DISQUALIFIED | WITHDRAWN
  deriving DecidableEq, Repr

/-- Scores by player, in the order in which the entries are enumerated. -/
abbrev Scores := Table (Prod.fst : String × ℚ → String)

/-- The result of a match, as it is stored. -/
structure MatchResult where
  winnerIds : List String
  scores : Option Scores
  mvpPlayerId : Option String

/-- A row of the matches. -/
structure Match where
  matchId : String
  tokenType : SupportedToken
  entryFee : Int
  minPlayers : Nat
  maxPlayers : Nat
  prizePool : Int
  platformFeePercent : ℚ
  prizeStrategy : PrizeDistributionStrategy
  riskLevel : PrizeRiskLevel
  prizeStructure : List PrizeEntry
  status : MatchStatus
  winnerId : Option String := none
  result : Option MatchResult := none
  startedAt : Option Int := none
  endedAt : Option Int := none

/-- The match among the sources. -/
def Match.source (m : Match) : SourceId := matchSource m.matchId

/-- A row of the participants. -/
structure MatchParticipant where
  matchId : String
  playerId : String
  walletId : Nat
  status : ParticipantStatus
  placement : Option Nat := none
  prizeWon : Int := 0
  deriving DecidableEq, Repr

/-- A player takes part in a match once. -/
def MatchParticipant.key (participant : MatchParticipant) : String × String :=
  (participant.matchId, participant.playerId)

/-- A match with the participants that were stored when it was read. -/
structure LoadedMatch extends Match where
  participants : List MatchParticipant

namespace LoadedMatch

/-- Players can still join. -/
def isJoinable (m : LoadedMatch) : Bool :=
  [MatchStatus.CREATED, .WAITING].contains m.status && m.participants.length < m.maxPlayers

/-- There are players enough. -/
def isReady (m : LoadedMatch) : Bool := m.minPlayers ≤ m.participants.length

/-- The match can start. -/
def canStart (m : LoadedMatch) : Bool := m.status = .READY && m.isReady

end LoadedMatch

/-! ### Tournaments -/

/-- The statuses of a tournament. -/
inductive TournamentStatus where
  | DRAFT | REGISTRATION_OPEN | REGISTRATION_CLOSED | BRACKET_GENERATED | IN_PROGRESS
  | COMPLETED | CANCELLED
  deriving DecidableEq, Repr

/-- The kinds of brackets. -/
inductive BracketType where
  | SINGLE_ELIMINATION | DOUBLE_ELIMINATION | ROUND_ROBIN | SWISS
  deriving DecidableEq, Repr

/-- The statuses of a registration. -/
inductive RegistrationStatus where
  | PENDING | CONFIRMED | CHECKED_IN | ELIMINATED | WITHDRAWN | DISQUALIFIED
  deriving DecidableEq, Repr

/-- The id of a bracket match, `round_index_hex`, in its three parts. -/
structure BracketMatchId where
  round : Nat
  index : Nat
  hex : String
  deriving DecidableEq, Repr

/-- The statuses of a match in a bracket. -/
inductive BracketMatchStatus where
  | pending | bye | completed
  deriving DecidableEq, Repr

/-- A match of a bracket. -/
structure BracketMatch where
  matchId : BracketMatchId
  player1Id : Option String
  player2Id : Option String
  winnerId : Option String
  status : BracketMatchStatus
  deriving DecidableEq, Repr

/-- A round of a bracket. -/
structure BracketRound where
  roundNumber : Nat
  matchList : List BracketMatch
  deriving DecidableEq, Repr

/-- A bracket, as it is stored in its tournament. -/
structure Bracket where
  rounds : List BracketRound
  deriving DecidableEq, Repr

/-- A row of the tournaments. -/
structure Tournament where
  tournamentId : String
  tokenType : SupportedToken
  entryFee : Int
  prizePool : Int
  guaranteedPrizePool : Int
  maxParticipants : Nat
  minParticipants : Nat
  bracketType : BracketType
  status : TournamentStatus
  platformFeePercent : ℚ
  prizeStrategy : PrizeDistributionStrategy
  riskLevel : PrizeRiskLevel
  prizeStructure : List PrizeEntry
  bracket : Option Bracket := none
  registrationStart : Int
  registrationEnd : Int
  endDate : Option Int := none
  deriving DecidableEq

/-- The tournament among the sources. -/
def Tournament.source (t : Tournament) : SourceId := tournamentSource t.tournamentId

/-- A row of the registrations. -/
structure TournamentRegistration where
  tournamentId : String
  playerId : String
  walletId : Nat
  seed : Option Nat := none
  status : RegistrationStatus
  finalPlacement : Option ℚ := none
  prizeWon : Int := 0
  skillRating : Option ℚ := none
  deriving DecidableEq

/-- A player registers for a tournament once. -/
def TournamentRegistration.key (registration : TournamentRegistration) : String × String :=
  (registration.tournamentId, registration.playerId)

/-- The registration counts towards the field of the tournament. -/
def TournamentRegistration.isCounted (registration : TournamentRegistration) : Bool :=
  registration.status = .CONFIRMED || registration.status = .CHECKED_IN

/-- A tournament with the registrations that were stored when it was read. -/
structure LoadedTournament extends Tournament where
  registrations : List TournamentRegistration

namespace LoadedTournament

/-- How many registrations are counted. -/
def getCurrentParticipantCount (t : LoadedTournament) : Nat :=
  (t.registrations.filter TournamentRegistration.isCounted).length

/-- Players can still register. -/
def isRegistrationOpen (t : LoadedTournament) (now : Int) : Bool :=
  t.status = .REGISTRATION_OPEN && t.registrationStart ≤ now && now ≤ t.registrationEnd &&
    t.getCurrentParticipantCount < t.maxParticipants

/-- The bracket can be generated. -/
def canGenerateBracket (t : LoadedTournament) : Bool :=
  t.status = .REGISTRATION_CLOSED && t.minParticipants ≤ t.getCurrentParticipantCount

end LoadedTournament

end Esports

end SvmCourse
