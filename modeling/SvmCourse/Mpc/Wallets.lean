import Mathlib.Data.List.Lex
import SvmCourse.Core.Prog
import SvmCourse.Core.Table

/-!
# MPC Wallets

The MPC service over its two tables. A wallet row holds the threshold and a
status, and its key shares are rows of their own. Loading a wallet loads its
shares with it, and every load makes new copies: what a call changes in one
copy, no other copy sees.

Saving a wallet that was loaded with its shares saves those copies too. A key
share is unique in its wallet and participant, and an insertion that breaks
this is refused as a whole.

What the outside decides comes with the call: the random bytes, the clock and
the hash function. Row ids are numbers in the order of insertion.

## Main definitions

* `MpcWallet`, `LoadedMpcWallet`, `KeyShare`: The entities.
* `MpcDb`: The tables.
* `mpcWalletRepository`, `keyShareRepository`: The accesses.
* `createMpcWallet`, `signTransaction`, `revokeKeyShare`: The service.
-/

namespace SvmCourse

namespace Mpc

open Core Core.Prog

/-! ### Entities -/

/-- The statuses of a wallet. -/
inductive MpcWalletStatus where
  | creating | active | recovering | disabled
  deriving DecidableEq, Repr

/-- How many shares sign, out of how many. -/
inductive ThresholdScheme where
  | TSS_2_3 | TSS_3_5 | TSS_4_7
  deriving DecidableEq, Repr

/-- The statuses of a share. -/
inductive KeyShareStatus where
  | active | revoked | lost | recovering
  deriving DecidableEq, Repr

/-- The kinds of shares. -/
inductive KeyShareType where
  | original | recovery | backup
  deriving DecidableEq, Repr

/-- A row of the shares. -/
structure KeyShare where
  id : Nat
  walletId : Nat
  participantId : String
  shareIndex : Nat
  encryptedShare : String
  participantPublicKey : String
  status : KeyShareStatus
  type : KeyShareType
  deviceId : Option String
  lastUsedAt : Option Nat
  deriving DecidableEq

/-- A row of the wallets. -/
structure MpcWallet where
  id : Nat
  walletId : String
  name : String
  thresholdScheme : ThresholdScheme
  totalShares : Nat
  threshold : Nat
  publicKey : String
  status : MpcWalletStatus
  deriving DecidableEq

/-- A wallet with its key shares as they were loaded. -/
structure LoadedMpcWallet extends MpcWallet where
  keyShares : List KeyShare
  deriving DecidableEq

/-- The share can sign. -/
def KeyShare.isActive (share : KeyShare) : Bool := share.status = .active

/-- The share with the instant of its use. -/
def KeyShare.markAsUsed (share : KeyShare) (now : Nat) : KeyShare :=
  { share with lastUsedAt := some now }

namespace LoadedMpcWallet

/-- The wallet can be used. -/
def isActive (wallet : LoadedMpcWallet) : Bool := wallet.status = .active

/-- How many shares can sign. -/
def getActiveSharesCount (wallet : LoadedMpcWallet) : Nat :=
  (wallet.keyShares.filter KeyShare.isActive).length

/-- There are shares enough to sign. -/
def canSign (wallet : LoadedMpcWallet) : Bool :=
  wallet.threshold ≤ (wallet.keyShares.filter KeyShare.isActive).length

end LoadedMpcWallet

/-! ### The store -/

/-- The errors that the service throws. -/
inductive ServiceError where
  | BadRequestException (message : String)
  | NotFoundException (message : String)
  | Error (message : String)
  | StoreError
  deriving DecidableEq, Repr

/-- The text of an error. -/
def ServiceError.message : ServiceError → String
  | .BadRequestException message => message
  | .NotFoundException message => message
  | .Error message => message
  | .StoreError => "QueryFailedError"

/-- The two tables of the service. -/
structure MpcDb where
  wallets : Table MpcWallet.id
  keyShares : Table KeyShare.id

/-- No rows. -/
def MpcDb.empty : MpcDb := ⟨Table.empty, Table.empty⟩

/-- The wallet row with the stored shares that belong to it. -/
def MpcDb.load (db : MpcDb) (wallet : MpcWallet) : LoadedMpcWallet :=
  { wallet with keyShares := db.keyShares.rows.filter fun share => share.walletId = wallet.id }

/-- The row with a public id. -/
def MpcDb.findRow (db : MpcDb) (walletId : String) : Option MpcWallet :=
  db.wallets.rows.find? fun wallet => wallet.walletId = walletId

/-- The wallet with a public id. -/
def MpcDb.findWallet (db : MpcDb) (walletId : String) : Option LoadedMpcWallet :=
  (db.findRow walletId).map db.load

/-- The store with the shares saved, one after the other. -/
def MpcDb.saveShares (db : MpcDb) (shares : List KeyShare) : MpcDb :=
  { db with keyShares := shares.foldl Table.save db.keyShares }

/-- A call of the service: accesses one after the other, or an error. -/
abbrev Service (α : Type) := Prog MpcDb ServiceError α

/-- One access to the database. -/
def query {α : Type} (act : MpcDb → α × MpcDb) : Service α := Prog.perform .StoreError act

namespace mpcWalletRepository

/-- The wallet of that name, with its shares. -/
def findOne (walletId : String) : Service (Option LoadedMpcWallet) :=
  query fun db => (db.findWallet walletId, db)

/-- The wallet with that id, with its shares. -/
def findOneById (id : Nat) : Service (Option LoadedMpcWallet) :=
  query fun db => ((db.wallets.findOne id).map db.load, db)

/-- The first save of a wallet, which assigns its id. The public id is unique. -/
def insert (create : Nat → MpcWallet) : Service MpcWallet := do
  let saved ← query fun db =>
    let wallet := create db.wallets.rows.length
    if db.wallets.rows.any fun other => other.walletId = wallet.walletId then
      (Except.error ServiceError.StoreError, db)
    else (Except.ok wallet, { db with wallets := db.wallets.save wallet })
  compute saved

/-- Saving a wallet saves the shares it was loaded with. -/
def save (wallet : LoadedMpcWallet) : Service Unit :=
  query fun db => ((), { db with
    wallets := db.wallets.save wallet.toMpcWallet
    keyShares := wallet.keyShares.foldl Table.save db.keyShares })

end mpcWalletRepository

namespace keyShareRepository

/-- The first share of that kind. -/
def findOne (p : KeyShare → Bool) : Service (Option KeyShare) :=
  query fun db => (db.keyShares.rows.find? p, db)

/-- Save the shares. -/
def save (shares : List KeyShare) : Service Unit :=
  query fun db => ((), db.saveShares shares)

/-- What the shares of a wallet are unique in. -/
def uniqueIndex (share : KeyShare) : Nat × String := (share.walletId, share.participantId)

/-- The first save of some shares, which assigns their ids. -/
def insert (create : Nat → List KeyShare) : Service Unit := do
  let saved ← query fun db =>
    let shares := create db.keyShares.rows.length
    if ((db.keyShares.rows ++ shares).map uniqueIndex).Nodup then
      (Except.ok (), db.saveShares shares)
    else (Except.error ServiceError.StoreError, db)
  compute saved

end keyShareRepository

/-! ### Requests and responses -/

/-- A participant of a new wallet. -/
structure Participant where
  participantId : String
  participantPublicKey : String

/-- What a caller asks for when a wallet is created. -/
structure CreateMpcWalletRequest where
  name : String
  thresholdScheme : ThresholdScheme
  participants : List Participant

/-- A wallet as it is shown. -/
structure MpcWalletResponse where
  id : Nat
  walletId : String
  name : String
  thresholdScheme : ThresholdScheme
  totalShares : Nat
  threshold : Nat
  publicKey : String
  status : MpcWalletStatus
  activeShares : Nat
  canSign : Bool

/-- An entry of a signing request. The share may be missing. -/
structure ParticipantShare where
  participantId : String
  signatureShare : Option String

/-- What a caller asks for when a transaction is signed. -/
structure SignTransactionRequest where
  walletId : String
  transactionData : String
  participantShares : List ParticipantShare

/-- What a caller is told of a signature. -/
structure SignatureReconstructionResult where
  completeSignature : String
  publicKey : String
  reconstructed : Bool
  participantsUsed : Nat

/-- A share of a request with the key share it was checked against. -/
structure ValidShare where
  participantId : String
  signatureShare : String
  share : KeyShare

/-- The digests of SHA-256 as text. -/
structure Sha256 where
  hex : String → String
  base64 : String → String

/-- What is drawn at random for a new wallet. -/
structure Random where
  masterKey : String
  walletIdBytes : String

/-! ### The service -/

section Service

variable (sha256 : Sha256)

/-- The name of a scheme. -/
def ThresholdScheme.name : ThresholdScheme → String
  | .TSS_2_3 => "2-of-3"
  | .TSS_3_5 => "3-of-5"
  | .TSS_4_7 => "4-of-7"

/-- The number of shares and the threshold. -/
def getThresholdParameters : ThresholdScheme → Nat × Nat
  | .TSS_2_3 => (3, 2)
  | .TSS_3_5 => (5, 3)
  | .TSS_4_7 => (7, 4)

/-- The name of a new wallet. -/
def generateWalletId (random : Random) : String := s!"mpc_{random.walletIdBytes}"

/-- Find a wallet, or say that there is none. -/
def getWalletByWalletId (walletId : String) : Service LoadedMpcWallet := do
  let wallet ← mpcWalletRepository.findOne walletId
  demand wallet (.NotFoundException s!"MPC wallet {walletId} not found")

/-- The public key and the encrypted shares, one for each participant. -/
def generateDistributedKey (random : Random) (participants : List Participant) :
    String × List String :=
  (sha256.hex random.masterKey,
    participants.zipIdx.map fun participant =>
      sha256.base64 (random.masterKey ++ participant.1.participantId ++ toString participant.2))

/-- The wallet as it is shown. -/
def mapWalletToResponse (wallet : LoadedMpcWallet) : MpcWalletResponse where
  id := wallet.id
  walletId := wallet.walletId
  name := wallet.name
  thresholdScheme := wallet.thresholdScheme
  totalShares := wallet.totalShares
  threshold := wallet.threshold
  publicKey := wallet.publicKey
  status := wallet.status
  activeShares := wallet.getActiveSharesCount
  canSign := wallet.canSign

/-- The key shares of a new wallet, with ids from `first` on. -/
def newKeyShares (savedWallet : MpcWallet) (participants : List Participant)
    (encrypted : List String) (first : Nat) : List KeyShare :=
  (participants.zip encrypted).zipIdx.map fun ((participant, encryptedData), index) =>
    { id := first + index
      walletId := savedWallet.id
      participantId := participant.participantId
      -- Counted from zero, in the order of the request.
      shareIndex := index
      encryptedShare := encryptedData
      participantPublicKey := participant.participantPublicKey
      status := .active
      type := .original
      deviceId := s!"device-{participant.participantId}"
      lastUsedAt := none }

/-- The wallet is saved before its key shares are. -/
def createShares (random : Random) (request : CreateMpcWalletRequest) :
    Service MpcWalletResponse := do
  let (totalShares, threshold) := getThresholdParameters request.thresholdScheme
  let (publicKey, encrypted) := generateDistributedKey sha256 random request.participants
  let savedWallet ← mpcWalletRepository.insert fun id =>
    { id := id
      walletId := generateWalletId random
      name := request.name
      thresholdScheme := request.thresholdScheme
      totalShares := totalShares
      threshold := threshold
      publicKey := publicKey
      status := .active }
  -- The shares are saved after their wallet, in one statement.
  keyShareRepository.insert (newKeyShares savedWallet request.participants encrypted)
  let walletWithShares ← mpcWalletRepository.findOneById savedWallet.id
  let wallet ← demand walletWithShares (.Error "Failed to load wallet with shares")
  pure (mapWalletToResponse wallet)

/-- The checks of a new wallet, before anything is stored. -/
def checkParticipants (request : CreateMpcWalletRequest) : Service Unit := do
  let count := request.participants.length
  let totalShares := (getThresholdParameters request.thresholdScheme).1
  require (2 ≤ count) (.BadRequestException "MPC wallet requires at least 2 participants")
  require (count = totalShares) (.BadRequestException
    (s!"Threshold scheme {request.thresholdScheme.name} requires exactly {totalShares} " ++
      s!"participants, got {count}"))

/-- Create a wallet: check the participants, save the wallet, and save its shares. -/
def createMpcWallet (random : Random) (request : CreateMpcWalletRequest) :
    Service MpcWalletResponse := do
  checkParticipants request
  (createShares sha256 random request).rescue fun e =>
    raise (.BadRequestException s!"Failed to create MPC wallet: {e.message}")

/-- The UTF-16 code units of a string, which its length counts. -/
def codeUnits (s : String) : List Nat :=
  s.toList.flatMap fun c =>
    if c.toNat < 0x10000 then [c.toNat]
    else [0xD800 + (c.toNat - 0x10000) / 0x400, 0xDC00 + (c.toNat - 0x10000) % 0x400]

/-- A signature share has the form of one when it has ten characters. -/
def wellFormed (signatureShare : String) : Bool := 10 ≤ (codeUnits signatureShare).length

/-- One turn of the validation loop: an entry counts when its participant has
    an active share and the signature share is well formed. -/
def validateParticipantShare (wallet : LoadedMpcWallet) (participantShare : ParticipantShare) :
    Option ValidShare :=
  match wallet.keyShares.find? fun s =>
      s.participantId = participantShare.participantId && s.isActive with
  -- An entry of a participant without an active share is passed over.
  | none => none
  | some share =>
    match participantShare.signatureShare with
    | none => none
    | some signatureShare =>
      if wellFormed signatureShare then
        some ⟨participantShare.participantId, signatureShare, share⟩
      else none

/-- The shares of the request that belong to active shares of the wallet. -/
def validateParticipantShares (wallet : LoadedMpcWallet)
    (participantShares : List ParticipantShare) : List ValidShare :=
  participantShares.filterMap (validateParticipantShare wallet)

/-- The signature: a hash of the shares in order and of the data. -/
def reconstructSignature (transactionData : String) (validShares : List ValidShare) : String :=
  let sorted := (validShares.map ValidShare.signatureShare).mergeSort fun a b =>
    decide (codeUnits a ≤ codeUnits b)
  sha256.base64 (String.join sorted ++ transactionData)

/-- Save the shares with the instant of their use. -/
def updateShareUsage (now : Nat) (validShares : List ValidShare) : Service Unit :=
  keyShareRepository.save (validShares.map fun validShare => validShare.share.markAsUsed now)

/-- Sign with the shares of a request, once the wallet is known to be active. -/
def signWithShares (now : Nat) (request : SignTransactionRequest) (wallet : LoadedMpcWallet) :
    Service SignatureReconstructionResult := do
  let validShares := validateParticipantShares wallet request.participantShares
  require (wallet.threshold ≤ validShares.length) (.BadRequestException
    s!"Insufficient valid shares: got {validShares.length}, need {wallet.threshold}")
  let signature := reconstructSignature sha256 request.transactionData validShares
  -- The copies that were loaded are saved, with the time they were used.
  updateShareUsage now validShares
  pure
    { completeSignature := signature
      publicKey := wallet.publicKey
      reconstructed := true
      participantsUsed := validShares.length }

/-- Check the wallet and the request, once the wallet is loaded. -/
def signLoaded (now : Nat) (request : SignTransactionRequest) (wallet : LoadedMpcWallet) :
    Service SignatureReconstructionResult := do
  require wallet.isActive
    (.BadRequestException s!"MPC wallet {request.walletId} is not active")
  require (wallet.threshold ≤ request.participantShares.length) (.BadRequestException
    s!"Insufficient shares: got {request.participantShares.length}, need {wallet.threshold}")
  (signWithShares sha256 now request wallet).rescue fun e =>
    raise (.BadRequestException s!"MPC signing failed: {e.message}")

/-- Sign a transaction with a wallet. -/
def signTransaction (now : Nat) (request : SignTransactionRequest) :
    Service SignatureReconstructionResult := do
  let wallet ← getWalletByWalletId request.walletId
  signLoaded sha256 now request wallet

/-- Revoke a share that was found. The wallet keeps its own copy of it, as it
    was loaded. -/
def revokeShare (wallet : LoadedMpcWallet) (share : KeyShare) : Service Unit :=
  if share.status = .revoked then pure () else do
    keyShareRepository.save [{ share with status := .revoked }]
    let activeShares : Int := wallet.getActiveSharesCount - 1
    if activeShares < wallet.threshold then
      mpcWalletRepository.save
        { wallet with toMpcWallet := { wallet.toMpcWallet with status := .recovering } }
    else pure ()

/-- Find the share to revoke, once the wallet is loaded. -/
def findAndRevoke (participantId : String) (shareIndex : Nat) (wallet : LoadedMpcWallet) :
    Service Unit := do
  let found ← keyShareRepository.findOne fun share =>
    share.walletId = wallet.id && share.participantId = participantId &&
      share.shareIndex = shareIndex
  let share ← demand found
    (.NotFoundException s!"Key share not found for participant {participantId}")
  revokeShare wallet share

/-- Revoke a share of a wallet. -/
def revokeKeyShare (walletId participantId : String) (shareIndex : Nat) : Service Unit := do
  let wallet ← getWalletByWalletId walletId
  findAndRevoke participantId shareIndex wallet

end Service

/-! ### A wallet of three -/

/-- Digests that show what was digested. -/
def plainSha256 : Sha256 := ⟨fun s => s!"hex({s})", fun s => s!"base64({s})"⟩

/-- A wallet of alice, bob and carol, two of whom can sign. -/
def treasuryDb : MpcDb :=
  ((createMpcWallet plainSha256 ⟨"key", "1"⟩
    { name := "Treasury"
      thresholdScheme := .TSS_2_3
      participants := [⟨"alice", "a"⟩, ⟨"bob", "b"⟩, ⟨"carol", "c"⟩] }).eval MpcDb.empty).2

end Mpc

end SvmCourse
