import Mathlib.Data.Rat.Defs
import Mathlib.Algebra.Order.Ring.Rat
import SvmCourse.Core.Machine
import SvmCourse.Core.Table

/-!
# Multi-Signature Transactions

The in-memory part of the signing service: accounts with their signers and
threshold, and transactions that collect signatures until there are enough and
are then sent. A transaction holds one web3 transaction object, and every
signer signs that same object.

What the outside decides comes with the call: the derived address, the random
part of an id, and what the network answers. The address of an account is derived
from the time and a random number, which take about 41 bytes together, and web3.js
refuses a seed of more than 32. So nearly every outcome of that is an error, and an
account is made only when the number has a few digits. Keys and signatures are those of
`Web3`. Signing a web3 transaction starts from scratch: the list of signatures
is replaced by a slot for the fee payer and one for every other signer, and
only the slot of the one who signs is filled. A transaction that does not
compile throws, and by then the old list is gone.

## Main definitions

* `Web3`: Keys and their signatures.
* `SolanaTransaction.sign`: Signing a web3 transaction.
* `createMultiSigAccount`, `createMultiSigTransaction`,
  `signMultiSigTransaction`, `executeMultiSigTransaction`: The service.
* `Call`, `step`: The service as a machine.
-/

namespace SvmCourse

namespace Signing

open Core

/-! ### Transactions of the network -/

/-- An address, as text. -/
abbrev PublicKey := String

/-- What is signed. The fee payer is the first account, and every account comes
    with whether it has to sign. -/
structure Message where
  recentBlockhash : String
  accounts : List (PublicKey × Bool)
  instructions : String
  deriving DecidableEq

/-- Reading private keys, and the signature of a key for a message. -/
structure Web3 where
  fromSecretKey : String → Except String PublicKey
  signature : PublicKey → Message → String

/-- The accounts are those of the instructions, with whether they have to sign
    there. The rest of the instructions is not looked at. -/
structure SolanaTransaction where
  feePayer : Option PublicKey := none
  recentBlockhash : Option String := none
  accounts : List (PublicKey × Bool) := []
  instructions : String := ""
  signatures : List (PublicKey × Option String) := []

/-- The accounts that have to sign. -/
def Message.signers (message : Message) : List PublicKey :=
  (message.accounts.filter Prod.snd).map Prod.fst

namespace SolanaTransaction

/-- The signature in the first slot, which is the fee payer's. -/
def signature (transaction : SolanaTransaction) : Option String :=
  (transaction.signatures.head?).bind Prod.snd

/-- The fee payer, or else whoever has the first slot. -/
def payer (transaction : SolanaTransaction) : Option PublicKey :=
  transaction.feePayer.or (transaction.signatures.head?.map Prod.fst)

/-- Every account once, the fee payer first. -/
def keys (transaction : SolanaTransaction) (feePayer : PublicKey) : List PublicKey :=
  (feePayer :: transaction.accounts.map Prod.fst).eraseDups

/-- The fee payer has to sign, whoever has to sign an instruction, and whoever
    has a slot. -/
def mustSign (transaction : SolanaTransaction) (feePayer key : PublicKey) : Bool :=
  key = feePayer || transaction.accounts.contains (key, true) ||
    (transaction.signatures.map Prod.fst).contains key

/-- The message that a transaction compiles to, if it can be. -/
def compile (transaction : SolanaTransaction) : Except String Message :=
  match transaction.recentBlockhash, transaction.payer with
  -- The checks of the library, in its order.
  | none, _ => .error "Transaction recentBlockhash required"
  | _, none => .error "Transaction fee payer required"
  | some recentBlockhash, some feePayer =>
    match transaction.signatures.find? fun slot => !(transaction.keys feePayer).contains slot.1 with
    | some slot => .error s!"unknown signer: {slot.1}"
    | none => .ok
      { recentBlockhash := recentBlockhash
        accounts := (transaction.keys feePayer).map fun key =>
          (key, transaction.mustSign feePayer key)
        instructions := transaction.instructions }

/-- A slot for every account that has to sign, where only the one who signs has
    a signature. -/
def slots (web3 : Web3) (message : Message) (signer : PublicKey) :
    List (PublicKey × Option String) :=
  message.signers.map fun key =>
    (key, if key = signer then some (web3.signature signer message) else none)

/-- The old signatures are dropped before the transaction is compiled. -/
def cleared (transaction : SolanaTransaction) (signer : PublicKey) : SolanaTransaction :=
  { transaction with signatures := [(signer, none)] }

/-- The transaction signed by one signer, whose signature is then the only one. -/
def signed (web3 : Web3) (transaction : SolanaTransaction) (message : Message)
    (signer : PublicKey) : SolanaTransaction :=
  { transaction with signatures := slots web3 message signer }

/-- Sign with one key. -/
def sign (web3 : Web3) (transaction : SolanaTransaction) (signer : PublicKey) :
    Except String Unit × SolanaTransaction :=
  match (transaction.cleared signer).compile with
  | .error e => (.error e, transaction.cleared signer)
  | .ok message => (.ok (), transaction.signed web3 message signer)

end SolanaTransaction

/-! ### The service -/

/-- How many signatures an account asks for, and whose. -/
structure MultiSigConfig where
  threshold : ℚ
  signers : List PublicKey

/-- A multi-signature account. -/
structure MultiSigAccount where
  address : PublicKey
  config : MultiSigConfig

/-- The statuses of a transaction. -/
inductive MultiSigStatus where
  | pending | ready | executed | failed
  deriving DecidableEq

/-- A signature that was collected. -/
structure CollectedSignature where
  signer : PublicKey
  signature : String

/-- A transaction that collects signatures. -/
structure MultiSigTransaction where
  id : String
  multiSigAddress : PublicKey
  transaction : SolanaTransaction
  requiredSignatures : ℚ
  collectedSignatures : List CollectedSignature
  status : MultiSigStatus

/-- The maps the service keeps in memory. -/
structure State where
  multiSigAccounts : Table MultiSigAccount.address
  multiSigTransactions : Table MultiSigTransaction.id

/-- No accounts and no transactions. -/
def State.empty : State := ⟨Table.empty, Table.empty⟩

/-- The state with the transaction stored. -/
def State.withTransaction (s : State) (multiSigTx : MultiSigTransaction) : State :=
  { s with multiSigTransactions := s.multiSigTransactions.save multiSigTx }

/-- A `BadRequestException` with its message. -/
abbrev Refusal := String

/-- What was found, or the refusal. -/
def demand {α : Type} (found : Option α) (refusal : Refusal) : Except Refusal α :=
  match found with
  | some a => .ok a
  | none => .error refusal

/-- Go on, or refuse. -/
def require (ok : Bool) (refusal : Refusal) : Except Refusal Unit :=
  if ok then .ok () else .error refusal

theorem demand_eq_ok {α : Type} {found : Option α} {refusal : Refusal} {a : α}
    (h : demand found refusal = .ok a) : found = some a := by
  cases found with
  | none => exact nomatch h
  | some b => exact congrArg some (Except.ok.inj h)

theorem require_eq_ok {ok : Bool} {refusal : Refusal} {u : Unit}
    (h : require ok refusal = .ok u) : ok = true := by
  cases ok with
  | true => rfl
  | false => exact nomatch h

theorem bind_eq_ok {α β : Type} {x : Except Refusal α} {f : α → Except Refusal β} {b : β}
    (h : (x >>= f) = .ok b) : ∃ a, x = .ok a ∧ f a = .ok b := by
  cases x with
  | error e => exact nomatch h
  | ok a => exact ⟨a, rfl, h⟩

/-- The checks on a configuration, before the address is derived. -/
def checkConfig (config : MultiSigConfig) : Except Refusal Unit := do
  require (config.threshold ≤ (config.signers.length : ℚ))
    "Threshold cannot be greater than number of signers"
  require (1 ≤ config.threshold) "Threshold must be at least 1"
  require (config.signers.length ≤ 11) "Maximum 11 signers allowed"

/-- Create an account: check the configuration, and store it under the address that
    was derived. -/
def createMultiSigAccount (config : MultiSigConfig) (derived : Except String PublicKey)
    (s : State) : Except Refusal String × State :=
  match checkConfig config, derived with
  | .error e, _ | .ok _, .error e => (.error s!"Failed to create multi-sig account: {e}", s)
  | .ok _, .ok address =>
    (.ok address, { s with multiSigAccounts := s.multiSigAccounts.save ⟨address, config⟩ })

/-- Create a transaction of an account that is known. -/
def createMultiSigTransaction (multiSigAddress : PublicKey) (transaction : SolanaTransaction)
    (txId : String) (s : State) : Except Refusal String × State :=
  match demand (s.multiSigAccounts.findOne multiSigAddress)
      "Multi-signature account not found" with
  | .error e => (.error s!"Failed to create multi-sig transaction: {e}", s)
  | .ok account =>
    (.ok txId, s.withTransaction
      { id := txId
        multiSigAddress := multiSigAddress
        transaction := transaction
        -- The threshold is copied, so a later change of the account does not matter.
        requiredSignatures := account.config.threshold
        collectedSignatures := []
        status := .pending })

/-- The checks of a signer, with the transaction and the key they find. -/
def checkSigner (web3 : Web3) (txId signerPrivateKey : String) (s : State) :
    Except Refusal (MultiSigTransaction × PublicKey) := do
  let multiSigTx ← demand (s.multiSigTransactions.findOne txId)
    "Multi-signature transaction not found"
  -- A transaction that is ready takes no more signatures.
  require (multiSigTx.status = .pending) "Transaction is not in pending state"
  let account ← demand (s.multiSigAccounts.findOne multiSigTx.multiSigAddress)
    "Multi-signature account not found"
  let signer ← (web3.fromSecretKey signerPrivateKey).mapError fun e =>
    s!"Invalid private key format: {e}"
  require (account.config.signers.contains signer) "Unauthorized signer"
  require (!multiSigTx.collectedSignatures.any fun sig => sig.signer = signer)
    "Signer has already signed this transaction"
  pure (multiSigTx, signer)

/-- The transaction with the signature of one more signer. -/
def MultiSigTransaction.collected (multiSigTx : MultiSigTransaction) (signer : PublicKey)
    (transaction : SolanaTransaction) : MultiSigTransaction :=
  let collectedSignatures := multiSigTx.collectedSignatures ++
    [⟨signer, transaction.signature.getD ""⟩]
  { multiSigTx with
    transaction := transaction
    collectedSignatures := collectedSignatures
    status := if multiSigTx.requiredSignatures ≤ (collectedSignatures.length : ℚ) then .ready
      else multiSigTx.status }

/-- Sign a transaction: check the signer, and collect the signature. -/
def signMultiSigTransaction (web3 : Web3) (txId signerPrivateKey : String) (s : State) :
    Except Refusal MultiSigTransaction × State :=
  match checkSigner web3 txId signerPrivateKey s with
  | .error e => (.error s!"Failed to sign multi-sig transaction: {e}", s)
  | .ok (multiSigTx, signer) =>
    match multiSigTx.transaction.sign web3 signer with
    | (.error e, transaction) =>
      -- The library clears the signatures before it compiles, also when that fails.
      (.error s!"Failed to sign multi-sig transaction: {e}",
        s.withTransaction { multiSigTx with transaction := transaction })
    | (.ok _, transaction) =>
      (.ok (multiSigTx.collected signer transaction),
        s.withTransaction (multiSigTx.collected signer transaction))

/-- The checks before a transaction is sent. -/
def checkReady (txId : String) (s : State) : Except Refusal MultiSigTransaction := do
  let multiSigTx ← demand (s.multiSigTransactions.findOne txId)
    "Multi-signature transaction not found"
  require (multiSigTx.status = .ready) "Transaction is not ready for execution"
  pure multiSigTx

/-- What the handler does with a transaction that it finds, whatever went
    wrong. -/
def State.failTransaction (s : State) (txId : String) : State :=
  match s.multiSigTransactions.findOne txId with
  | some multiSigTx => s.withTransaction { multiSigTx with status := .failed }
  | none => s

/-- Send a transaction. The network answers with a signature or an error. -/
def executeMultiSigTransaction (txId : String) (answer : Except String String) (s : State) :
    Except Refusal String × State :=
  match checkReady txId s, answer with
  | .error e, _ | .ok _, .error e =>
    (.error s!"Failed to execute multi-sig transaction: {e}", s.failTransaction txId)
  | .ok multiSigTx, .ok signature =>
    (.ok signature, s.withTransaction { multiSigTx with status := .executed })

/-! ### The service as a machine -/

/-- The calls of the service. -/
inductive Call where
  | createAccount (config : MultiSigConfig) (derived : Except String PublicKey)
  | createTransaction (multiSigAddress : PublicKey) (transaction : SolanaTransaction)
      (txId : String)
  | sign (txId signerPrivateKey : String)
  | execute (txId : String) (answer : Except String String)

/-- The answer of a call, less its value. -/
def answered {α : Type} (outcome : Except Refusal α × State) : Except Refusal Unit × State :=
  (outcome.1.map fun _ => (), outcome.2)

/-- One call on the state. -/
def step (web3 : Web3) (s : State) : Call → Except Refusal Unit × State
  | .createAccount config derived => answered (createMultiSigAccount config derived s)
  | .createTransaction multiSigAddress transaction txId =>
    answered (createMultiSigTransaction multiSigAddress transaction txId s)
  | .sign txId signerPrivateKey => answered (signMultiSigTransaction web3 txId signerPrivateKey s)
  | .execute txId answer => answered (executeMultiSigTransaction txId answer s)

/-- The random parts of the call are new: no account has the address, and no
    transaction has the id. -/
def Call.Fresh (call : Call) (s : State) : Prop :=
  match call with
  | .createAccount _ (.ok address) => s.multiSigAccounts.findOne address = none
  | .createTransaction _ _ txId => s.multiSigTransactions.findOne txId = none
  | _ => True

end Signing

end SvmCourse
