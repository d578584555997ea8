import SvmCourse.Core.Prog
import SvmCourse.Esports.Entities

/-!
# The Shared Store

The database behind the services and the accesses the repositories offer.
Every repository call is one atomic access: `findOne` and `find` return the
rows as stored, `save` overwrites the row with the same key or adds it, and
`update` patches the matching rows. A service method is a program over these
accesses, and an access the database refuses is the exception `StoreError` at
the point of the call.

The two transaction logs and the prize records have no key but the id the
database assigns, so they are lists and the id is the position.

`credited` is the one component the source does not have. It notes which
amounts the prize credits have added to wallet balances and for which source,
at the very access that adds them, and no access reads it.

## Main definitions

* `ServiceError`: The exceptions the services throw.
* `Db`: The tables.
* `Service`: A service method.
* `walletRepository`, `txRepository`, `escrowRepository`,
  `escrowTxRepository`, `prizeRepository`, `matchRepository`,
  `participantRepository`, `tournamentRepository`,
  `registrationRepository`: The accesses, by repository.
* `Db.balances`, `Db.escrowFunds`, `Db.prizePool`: The money of a player or a
  source.
* `Db.depositRows`, `Db.deposited`, `Db.creditedTo`: The history of one
  source.
-/

namespace SvmCourse

namespace Esports

open Core

/-- The errors that the services throw. -/
inductive ServiceError where
  | BadRequestException (message : String)
  | NotFoundException (message : String)
  | RangeError (message : String)
  | SyntaxError (message : String)
  | TypeError (message : String)
  | SigningError (message : String)
  | StoreError
  deriving DecidableEq, Repr

/-- The text of an error. -/
def ServiceError.message : ServiceError → String
  | .BadRequestException message => message
  | .NotFoundException message => message
  | .RangeError message => message
  | .SyntaxError message => message
  | .TypeError message => message
  | .SigningError message => message
  | .StoreError => "QueryFailedError"

/-- The tables of the services. -/
structure Db where
  wallets : Table PlayerWallet.playerId
  walletTxs : List WalletTransaction
  escrows : Table EscrowAccount.escrowId
  escrowTxs : List EscrowTransaction
  prizes : List PrizeDistribution
  matchRows : Table Match.matchId
  participants : Table MatchParticipant.key
  tournaments : Table Tournament.tournamentId
  registrations : Table TournamentRegistration.key
  credited : List (SourceId × Int)

/-- The store before the first call. -/
def Db.empty : Db where
  wallets := Table.empty
  walletTxs := []
  escrows := Table.empty
  escrowTxs := []
  prizes := []
  matchRows := Table.empty
  participants := Table.empty
  tournaments := Table.empty
  registrations := Table.empty
  credited := []

/-- A call of the services: reads and writes one after the other, or an error. -/
abbrev Service (α : Type) := Prog Db ServiceError α

/-- One access to the database. -/
def query {α : Type} (act : Db → α × Db) : Service α := Prog.perform .StoreError act

namespace walletRepository

/-- The wallet of the player. -/
def findOne (playerId : String) : Service (Option PlayerWallet) :=
  query fun db => (db.wallets.findOne playerId, db)

/-- The first save of a wallet, which assigns its id. -/
def insert (create : Nat → PlayerWallet) : Service PlayerWallet :=
  query fun db =>
    let wallet := create db.wallets.rows.length
    (wallet, { db with wallets := db.wallets.save wallet })

/-- Save a wallet. -/
def save (wallet : PlayerWallet) : Service Unit :=
  query fun db => ((), { db with wallets := db.wallets.save wallet })

end walletRepository

namespace txRepository

/-- The first save of a transaction, which assigns its id. -/
def insert (tx : WalletTransaction) : Service Nat :=
  query fun db => (db.walletTxs.length, { db with walletTxs := db.walletTxs ++ [tx] })

/-- Write the row at that place. -/
def save (id : Nat) (tx : WalletTransaction) : Service Unit :=
  query fun db => ((), { db with walletTxs := db.walletTxs.set id tx })

end txRepository

namespace escrowRepository

/-- The escrow with that id. -/
def findOne (escrowId : SourceId) : Service (Option EscrowAccount) :=
  query fun db => (db.escrows.findOne escrowId, db)

/-- Save an escrow. -/
def save (escrow : EscrowAccount) : Service Unit :=
  query fun db => ((), { db with escrows := db.escrows.save escrow })

end escrowRepository

namespace escrowTxRepository

/-- The rows of that kind. -/
def find (p : EscrowTransaction → Bool) : Service (List EscrowTransaction) :=
  query fun db => (db.escrowTxs.filter p, db)

/-- Save a new row. -/
def save (tx : EscrowTransaction) : Service Unit :=
  query fun db => ((), { db with escrowTxs := db.escrowTxs ++ [tx] })

end escrowTxRepository

namespace prizeRepository

/-- Save a new distribution, and return its place. -/
def insert (prizeDistribution : PrizeDistribution) : Service Nat :=
  query fun db => (db.prizes.length, { db with prizes := db.prizes ++ [prizeDistribution] })

/-- Write the distribution at that place. -/
def save (id : Nat) (prizeDistribution : PrizeDistribution) : Service Unit :=
  query fun db => ((), { db with prizes := db.prizes.set id prizeDistribution })

end prizeRepository

namespace matchRepository

/-- The match together with its stored participants. -/
def findOne (matchId : String) : Service (Option LoadedMatch) :=
  query fun db =>
    ((db.matchRows.findOne matchId).map fun m =>
      { toMatch := m
        participants := db.participants.find fun p => p.matchId = matchId }, db)

/-- Save a match. -/
def save (m : Match) : Service Unit :=
  query fun db => ((), { db with matchRows := db.matchRows.save m })

end matchRepository

namespace participantRepository

/-- The participant of that match. -/
def findOne (matchId playerId : String) : Service (Option MatchParticipant) :=
  query fun db => (db.participants.findOne (matchId, playerId), db)

/-- The participants of that kind. -/
def find (p : MatchParticipant → Bool) : Service (List MatchParticipant) :=
  query fun db => (db.participants.find p, db)

/-- Save a participant. -/
def save (participant : MatchParticipant) : Service Unit :=
  query fun db => ((), { db with participants := db.participants.save participant })

/-- Change the participants of that kind. -/
def update (p : MatchParticipant → Bool) (f : MatchParticipant → MatchParticipant)
    (hf : ∀ r, (f r).key = r.key) : Service Unit :=
  query fun db => ((), { db with participants := db.participants.update p f hf })

end participantRepository

namespace tournamentRepository

/-- The tournament together with its stored registrations. -/
def findOne (tournamentId : String) : Service (Option LoadedTournament) :=
  query fun db =>
    ((db.tournaments.findOne tournamentId).map fun t =>
      { toTournament := t
        registrations := db.registrations.find fun r => r.tournamentId = tournamentId }, db)

/-- Save a tournament. -/
def save (t : Tournament) : Service Unit :=
  query fun db => ((), { db with tournaments := db.tournaments.save t })

end tournamentRepository

namespace registrationRepository

/-- The registration for that tournament. -/
def findOne (tournamentId playerId : String) : Service (Option TournamentRegistration) :=
  query fun db => (db.registrations.findOne (tournamentId, playerId), db)

/-- The registrations of that kind. -/
def find (p : TournamentRegistration → Bool) : Service (List TournamentRegistration) :=
  query fun db => (db.registrations.find p, db)

/-- Save a registration. -/
def save (registration : TournamentRegistration) : Service Unit :=
  query fun db => ((), { db with registrations := db.registrations.save registration })

/-- Change the registrations of that kind. -/
def update (p : TournamentRegistration → Bool)
    (f : TournamentRegistration → TournamentRegistration) (hf : ∀ r, (f r).key = r.key) :
    Service Unit :=
  query fun db => ((), { db with registrations := db.registrations.update p f hf })

end registrationRepository

/-! ### What a store says about a player or a source -/

/-- The available and the locked balance of a player. -/
def Db.balances (db : Db) (playerId : String) : Option (Int × Int) :=
  (db.wallets.findOne playerId).map fun wallet => (wallet.availableBalance, wallet.lockedBalance)

/-- The wallet of the player can lock the fee. -/
def Db.canPay (db : Db) (playerId : String) (fee : Int) : Bool :=
  (db.wallets.findOne playerId).any fun wallet => wallet.canLock fee

/-- The current balance and the total deposited of an escrow. -/
def Db.escrowFunds (db : Db) (source : SourceId) : Option (Int × Int) :=
  (db.escrows.findOne source).map fun escrow => (escrow.currentBalance, escrow.totalDeposited)

/-- The prize pool of a match or tournament. -/
def Db.prizePool (db : Db) (source : SourceId) : Option Int :=
  match source.sourceType with
  | .MATCH => (db.matchRows.findOne source.hex).map Match.prizePool
  | .TOURNAMENT => (db.tournaments.findOne source.hex).map Tournament.prizePool

namespace Db

/-- The `DEPOSIT` rows of one escrow. -/
def depositRows (db : Db) (source : SourceId) : List EscrowTransaction :=
  db.escrowTxs.filter fun tx => tx.escrowId = source && tx.type = .DEPOSIT

/-- What was deposited into its escrow. -/
def deposited (db : Db) (source : SourceId) : Int :=
  ((db.depositRows source).map EscrowTransaction.amount).sum

/-- What prize credits have added to wallet balances for one source. -/
def creditedTo (db : Db) (source : SourceId) : Int :=
  ((db.credited.filter fun c => c.1 = source).map Prod.snd).sum

end Db

end Esports

end SvmCourse
